import Mathlib
import RowQuery.Proofs.Condition.Depth

/-!
# Redundant groups

A group that is left without members says nothing, and a group of one member says what the member
says. A condition that is not too high is written as its normal form is (`fragment_eq_normalForm`),
what is refused included, and `Condition.evaluate_eq_verdict` says that it is decided so. Hence
neither SQL nor answer changes when groups of one member are put around parts of a condition or
members that say nothing beside them (`Condition.Padded`), as long as the condition does not get too
high: `redundancy_transparent`.
-/

namespace RowQuery

/-! ## Empty fragments -/

namespace Fragment

/-- Members without text do not matter to a group. -/
theorem join_filter (conjunction : Conjunction) (fs : List Fragment) :
    join conjunction (fs.filter (! ·.isEmpty)) = join conjunction fs := by
  unfold join
  rw [List.filter_filter]
  simp only [Bool.and_self]

/-- Several members with text stand side by side. -/
theorem join_several (conjunction : Conjunction) {fs : List Fragment} (several : 2 ≤ fs.length)
    (h : ∀ f ∈ fs, f.isEmpty = false) : join conjunction fs = {
      sql := (" " ++ conjunction.text ++ " ").intercalate (fs.map wrapped)
      values := fs.flatMap values
      needsParens := true } := by
  have hkept : fs.filter (! ·.isEmpty) = fs :=
    List.filter_eq_self.2 fun f hf => by rw [h f hf]; rfl
  unfold join
  rw [hkept]
  match fs, several with
  | f :: f' :: rest, _ => rfl

/-- A group without text is nothing at all. -/
theorem join_eq_empty {conjunction : Conjunction} {fs : List Fragment}
    (h : (join conjunction fs).isEmpty = true) : join conjunction fs = {} := by
  have hkept : ∀ f ∈ fs.filter (! ·.isEmpty), f.isEmpty = false := by
    intro f hf
    simpa using (List.mem_filter.1 hf).2
  unfold join at h ⊢
  generalize fs.filter (! ·.isEmpty) = kept at h hkept ⊢
  match kept with
  | [] => rfl
  | [f] => cases (hkept f (List.mem_singleton.2 rfl)).symm.trans h
  | f :: f' :: rest =>
    simp [isEmpty, String.intercalate_cons_cons] at h

end Fragment

namespace Condition

variable {c c' n : Condition} {depth : Nat}

/-- What is written without text is nothing at all. -/
theorem eq_empty_of_isEmpty {f : Fragment} (h : c.fragment depth = .ok f)
    (hempty : f.isEmpty = true) : f = {} := by
  cases c with
  | raw sql values =>
    obtain ⟨-, rfl⟩ := fragment_raw_eq_ok.1 h
    simp [Fragment.isEmpty] at hempty
  | compare c =>
    obtain ⟨-, hc⟩ := fragment_compare_eq_ok.1 h
    obtain ⟨-, -, rfl⟩ := Comparison.fragment_eq_ok.1 hc
    exact absurd (String.isEmpty_iff.1 hempty) c.written_sql_ne_empty
  | group conjunction children =>
    obtain ⟨-, fs, -, rfl⟩ := fragment_group_eq_ok.1 h
    exact Fragment.join_eq_empty hempty

/-- A group of one member is written as the member. -/
theorem map_join_singleton (conjunction : Conjunction) :
    (c.fragment depth).map (fun f => Fragment.join conjunction [f]) = c.fragment depth := by
  cases hf : c.fragment depth with
  | error e => rfl
  | ok f =>
    refine congrArg Except.ok ?_
    cases hempty : f.isEmpty with
    | true =>
      rw [eq_empty_of_isEmpty hf hempty]
      rfl
    | false => simp [Fragment.join, hempty]

/-! ## Normal forms -/

/-- Nothing is left of a group when nothing is left of its members. -/
theorem collapse_eq_none_iff {conjunction : Conjunction} {members : List Condition} :
    collapse conjunction members = none ↔ members = [] := by
  match members with
  | [] => exact iff_of_true rfl rfl
  | [m] => simp [collapse]
  | m :: m' :: rest => simp [collapse]

/-- Nothing is left of a condition when it has no leaves. -/
theorem normalForm_eq_none_iff : c.normalForm = none ↔ c.leaves = [] := by
  induction c using recMembers with
  | raw sql values => simp [normalForm, leaves]
  | compare c => simp [normalForm, leaves]
  | group conjunction children ih =>
    rw [normalForm_group, collapse_eq_none_iff, List.filterMap_eq_nil_iff, leaves_group,
      List.flatMap_eq_nil_iff]
    exact forall₂_congr ih

/-- A normal condition is its own normal form. -/
theorem Normal.normalForm_eq (h : n.Normal) : n.normalForm = some n := by
  induction h with
  | raw sql values => rfl
  | compare c => rfl
  | @group conjunction members several _ ih =>
    have hmembers : members.filterMap normalForm = members := by
      rw [List.filterMap_congr ih, List.filterMap_some]
    rw [normalForm_group, hmembers]
    match members, several with
    | m :: m' :: rest, _ => rfl

/-- A group is not higher than one that has members as high as its own. -/
theorem memberHeight_mono {members members' : List Condition}
    (h : ∀ m ∈ members, ∃ m' ∈ members', m.height ≤ m'.height) :
    memberHeight members ≤ memberHeight members' := by
  refine memberHeight_le_iff.2 fun m hm => ?_
  obtain ⟨m', hm', hle⟩ := h m hm
  exact Nat.lt_of_le_of_lt hle (height_lt_of_mem hm')

/-- What is left of members is not higher than a group of them. -/
theorem height_le_of_collapse {conjunction : Conjunction} {members : List Condition}
    (h : collapse conjunction members = some n) : n.height ≤ memberHeight members := by
  match members, h with
  | [m], h =>
    obtain rfl : m = n := Option.some.inj h
    exact Nat.le_of_lt (height_lt_of_mem (List.mem_singleton.2 rfl))
  | m :: m' :: rest, h =>
    obtain rfl : Condition.group conjunction (m :: m' :: rest) = n := Option.some.inj h
    exact Nat.le_refl _

/-- The normal form is not higher. -/
theorem height_le_of_normalForm (h : c.normalForm = some n) : n.height ≤ c.height := by
  induction c using recMembers generalizing n with
  | raw sql values =>
    cases h
    exact Nat.le_refl _
  | compare c =>
    cases h
    exact Nat.le_refl _
  | group conjunction children ih =>
    rw [normalForm_group] at h
    refine Nat.le_trans (height_le_of_collapse h) (memberHeight_mono fun m hm => ?_)
    obtain ⟨c, hc, hcm⟩ := List.mem_filterMap.1 hm
    exact ⟨c, hc, ih c hc hcm⟩

/-! ## Writing and deciding a normal form -/

/-- What is written for what is left of a condition, if anything is. -/
def fragment? (depth : Nat) : Option Condition → Except QueryError Fragment
  | none => .ok {}
  | some n => n.fragment depth

/-- Members that are written without text do not matter to what a group is written as. -/
theorem map_join_filter {conjunction : Conjunction} (x : Except QueryError (List Fragment)) :
    x.map (Fragment.join conjunction) =
      (x.map (List.filter (! ·.isEmpty))).map (Fragment.join conjunction) := by
  cases x with
  | error e => rfl
  | ok fs => exact congrArg Except.ok (Fragment.join_filter conjunction fs).symm

/-- Of what is written for one more member, only what has text is kept. -/
theorem mapM_filter_cons {α : Type} (write : α → Except QueryError Fragment) (a : α) (l : List α) :
    ((a :: l).mapM write).map (List.filter (! ·.isEmpty)) =
      write a >>= fun f => ((l.mapM write).map (List.filter (! ·.isEmpty))).map fun fs =>
        if f.isEmpty then fs else f :: fs := by
  rw [List.mapM_cons]
  cases write a with
  | error e => rfl
  | ok f =>
    cases l.mapM write with
    | error e => rfl
    | ok fs =>
      show Except.ok ((f :: fs).filter (! ·.isEmpty)) =
        .ok (if f.isEmpty then fs.filter (! ·.isEmpty) else f :: fs.filter (! ·.isEmpty))
      cases hempty : f.isEmpty <;> simp [hempty]

/-- Members of which nothing is left are written without text. -/
theorem mapM_fragment?_filter (children : List Condition) :
    (children.mapM fun c => fragment? depth c.normalForm).map (List.filter (! ·.isEmpty)) =
      ((children.filterMap normalForm).mapM (fragment depth)).map (List.filter (! ·.isEmpty)) := by
  induction children with
  | nil => rfl
  | cons c children ih =>
    rw [mapM_filter_cons, ih]
    cases hn : c.normalForm with
    | none =>
      rw [List.filterMap_cons_none hn]
      cases (children.filterMap normalForm).mapM (fragment depth) <;> rfl
    | some n =>
      rw [List.filterMap_cons_some hn, mapM_filter_cons]
      rfl

/-- The members of a group, one group deeper than what is left of them, are joined to it. -/
theorem mapM_join_collapse (conjunction : Conjunction) {members : List Condition}
    (hdepth : depth ≤ maxDepth) (h : ∀ m ∈ members, depth + 1 + m.height ≤ maxDepth) :
    (members.mapM (fragment (depth + 1))).map (Fragment.join conjunction) =
      fragment? depth (collapse conjunction members) := by
  match members with
  | [] => rfl
  | [m] =>
    have hm := h m (List.mem_singleton.2 rfl)
    show _ = m.fragment depth
    rw [fragment_congr_depth (by omega) hm, ← map_join_singleton conjunction, List.mapM_cons]
    cases m.fragment (depth + 1) <;> rfl
  | m :: m' :: rest =>
    show _ = fragment depth (.group conjunction (m :: m' :: rest))
    rw [fragment, if_neg (Nat.not_lt.2 hdepth), fragments_eq_mapM]

/-- A condition without a node that stands too deep is written as its normal form is, or refused as
it is. -/
theorem fragment_eq_normalForm (h : depth + c.height ≤ maxDepth) :
    c.fragment depth = fragment? depth c.normalForm := by
  induction c using recMembers generalizing depth with
  | raw sql values => rfl
  | compare c => rfl
  | group conjunction children ih =>
    obtain ⟨hdepth, hlow⟩ := add_memberHeight_le_iff.1 h
    have hleft : ∀ m ∈ children.filterMap normalForm, depth + 1 + m.height ≤ maxDepth := by
      intro m hm
      obtain ⟨c, hc, hcm⟩ := List.mem_filterMap.1 hm
      exact Nat.le_trans (Nat.add_le_add_left (height_le_of_normalForm hcm) _) (hlow c hc)
    rw [fragment, if_neg (Nat.not_lt.2 hdepth), fragments_eq_mapM,
      mapM_congr fun c hc => ih c hc (hlow c hc), map_join_filter, mapM_fragment?_filter,
      ← map_join_filter, mapM_join_collapse conjunction hdepth hleft, normalForm_group]

/-- Conditions that are not too high and have the same normal form are written alike. -/
theorem fragment_congr_normalForm (h : depth + c.height ≤ maxDepth)
    (h' : depth + c'.height ≤ maxDepth) (hform : c'.normalForm = c.normalForm) :
    c'.fragment depth = c.fragment depth := by
  rw [fragment_eq_normalForm h, fragment_eq_normalForm h', hform]

/-- Conditions that are not too high and have the same normal form are decided alike. -/
theorem holds_congr_normalForm {row : Row} (h : c.height ≤ maxDepth) (h' : c'.height ≤ maxDepth)
    (hform : c'.normalForm = c.normalForm) : c'.holds row = c.holds row := by
  rw [← Nat.zero_add c.height] at h
  rw [← Nat.zero_add c'.height] at h'
  rw [holds, holds, evaluate_eq_verdict h, evaluate_eq_verdict h', hform]

/-! ## Adding redundancy -/

/-- The condition with one more group in it that says nothing: around a part of it, or as a member
that has no leaves. -/
inductive Pads : Condition → Condition → Prop
  /-- The condition as the only member of a group. -/
  | wrap (conjunction : Conjunction) (c : Condition) : Pads c (.group conjunction [c])
  /-- One more member, without leaves. -/
  | sibling (conjunction : Conjunction) (before after : List Condition) {v : Condition}
      (vacuous : v.leaves = []) :
      Pads (.group conjunction (before ++ after)) (.group conjunction (before ++ v :: after))
  /-- The same in a member. -/
  | member (conjunction : Conjunction) (before after : List Condition) {c c' : Condition}
      (h : Pads c c') :
      Pads (.group conjunction (before ++ c :: after)) (.group conjunction (before ++ c' :: after))

/-- The condition with any number of such groups in it. -/
def Padded : Condition → Condition → Prop := Relation.ReflTransGen Pads

/-- One more group that says nothing leaves the normal form as it is. -/
theorem Pads.normalForm_eq (h : c.Pads c') : c'.normalForm = c.normalForm := by
  induction h with
  | wrap conjunction c =>
    rw [normalForm_group]
    cases hn : c.normalForm with
    | none => rw [List.filterMap_cons_none hn]; rfl
    | some n => rw [List.filterMap_cons_some hn]; rfl
  | sibling conjunction before after vacuous =>
    rw [normalForm_group, normalForm_group, List.filterMap_append, List.filterMap_append,
      List.filterMap_cons_none (normalForm_eq_none_iff.2 vacuous)]
  | member conjunction before after _ ih =>
    rw [normalForm_group, normalForm_group, List.filterMap_append, List.filterMap_append,
      List.filterMap_cons, List.filterMap_cons, ih]

/-- A condition with one more group in it is not lower. -/
theorem Pads.height_le (h : c.Pads c') : c.height ≤ c'.height := by
  induction h with
  | wrap conjunction c => exact Nat.le_of_lt (height_lt_of_mem (List.mem_singleton.2 rfl))
  | sibling conjunction before after vacuous =>
    refine memberHeight_mono fun m hm => ⟨m, ?_, Nat.le_refl _⟩
    rcases List.mem_append.1 hm with hm | hm <;> simp [hm]
  | @member conjunction before after c c' _ ih =>
    refine memberHeight_mono fun m hm => ?_
    rcases List.mem_append.1 hm with hm | hm
    · exact ⟨m, by simp [hm], Nat.le_refl _⟩
    · rcases List.mem_cons.1 hm with rfl | hm
      · exact ⟨c', by simp, ih⟩
      · exact ⟨m, by simp [hm], Nat.le_refl _⟩

/-- Any number of groups that say nothing leave the normal form as it is. -/
theorem Padded.normalForm_eq (h : c.Padded c') : c'.normalForm = c.normalForm := by
  induction h with
  | refl => rfl
  | tail _ hstep ih => exact hstep.normalForm_eq.trans ih

/-- A condition with any number of groups added is not lower. -/
theorem Padded.height_le (h : c.Padded c') : c.height ≤ c'.height := by
  induction h with
  | refl => exact Nat.le_refl _
  | tail _ hstep ih => exact Nat.le_trans ih hstep.height_le

/-! ## The result -/

/-- A condition that is written as SQL is written as its normal form, and as nothing if nothing is
left of it; one that is decided on a row is decided as its normal form, and holds if nothing is left
of it; and groups that say nothing, added around any parts and beside them, change neither, within
the limit of depth. -/
theorem redundancy_transparent (c : Condition) :
    (∀ depth f, c.fragment depth = .ok f →
      (∀ n, c.normalForm = some n → n.fragment depth = .ok f) ∧ (c.normalForm = none → f = {})) ∧
    (∀ row answer, c.holds row = .ok answer →
      (∀ n, c.normalForm = some n → n.holds row = .ok answer) ∧
      (c.normalForm = none → answer = true)) ∧
    ∀ c', c.Padded c' →
      (∀ depth, depth + c'.height ≤ maxDepth → c'.fragment depth = c.fragment depth) ∧
      (c'.height ≤ maxDepth → ∀ row, c'.holds row = c.holds row) := by
  have hself {n : Condition} (hn : c.normalForm = some n) : n.normalForm = c.normalForm := by
    rw [hn]
    exact (normal_of_normalForm hn).normalForm_eq
  refine ⟨fun depth f h => ?_, fun row answer h => ?_, fun c' hpadded => ⟨?_, ?_⟩⟩
  · have hlow := height_le_of_fragment h
    refine ⟨fun n hn => ?_, fun hnone => ?_⟩
    · have hle := Nat.add_le_add_left (height_le_of_normalForm hn) depth
      exact (fragment_congr_normalForm hlow (Nat.le_trans hle hlow) (hself hn)).trans h
    · rw [fragment_eq_normalForm hlow, hnone] at h
      exact (Except.ok.inj h).symm
  · have hlow : 0 + c.height ≤ maxDepth := nodes_le_iff.1 (exists_holds_iff.1 ⟨answer, h⟩).1
    refine ⟨fun n hn => ?_, fun hnone => ?_⟩
    · rw [Nat.zero_add] at hlow
      have hle := height_le_of_normalForm hn
      exact (holds_congr_normalForm hlow (Nat.le_trans hle hlow) (hself hn)).trans h
    · rw [holds, evaluate_eq_verdict hlow, hnone] at h
      exact (Except.ok.inj h).symm
  · intro depth hlow
    have hle := Nat.add_le_add_left hpadded.height_le depth
    exact fragment_congr_normalForm (Nat.le_trans hle hlow) hlow hpadded.normalForm_eq
  · intro hlow row
    exact holds_congr_normalForm (Nat.le_trans hpadded.height_le hlow) hlow hpadded.normalForm_eq

/-- A group around one alternative and an empty group beside it change neither what is written nor
what is decided, and an alternative to a group that says nothing is written without it. -/
theorem redundancy_transparent_of_vacuous_members :
    let a := equal "a" (.int 1)
    let b := isNull "b"
    let row := Row.ofScalars [("a", .int 2), ("b", .null)]
    let c := group .or [a, b]
    let c' := group .or [group .and [a], group .or [group .and []], b]
    let d := group .or [group .and [group .or []], a]
    c.Padded c' ∧ c'.fragment 97 = c.fragment 97 ∧ c'.holds row = c.holds row ∧
      d.fragment 0 = .ok { sql := "`a` = ?", values := [.int 1] } ∧
      a.fragment 0 = .ok { sql := "`a` = ?", values := [.int 1] } ∧
      d.holds row = .ok false ∧ a.holds row = .ok false := by
  intro a b row c c' d
  have hpadded : c.Padded c' :=
    .tail (.single (.member .or [] [b] (.wrap .and a))) (.sibling .or [group .and [a]] [b] rfl)
  obtain ⟨hfragment, hholds⟩ := (redundancy_transparent c).2.2 c' hpadded
  have hd : d.fragment 0 = .ok { sql := "`a` = ?", values := [.int 1] } := by cbv
  have hanswer : d.holds row = .ok false := by cbv
  exact ⟨hpadded, hfragment 97 (by decide), hholds (by decide) row, hd,
    ((redundancy_transparent d).1 0 _ hd).1 a rfl, hanswer,
    ((redundancy_transparent d).2.1 row _ hanswer).1 a rfl⟩

end Condition

end RowQuery
