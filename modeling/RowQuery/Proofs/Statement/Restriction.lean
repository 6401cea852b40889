import Mathlib
import RowQuery.Proofs.Condition.Redundancy
import RowQuery.Proofs.Statement.Lines

/-!
# The same filter in selects, deletes and updates

A select writes its filter as one of its lines and leaves the line empty when the filter says
nothing; a delete writes the same line, or none. An update joins its comparisons by itself, without
the tree that the others write, yet it writes and refuses what they would for the group of these
comparisons (`Update.statement_eq_group`). So whichever statement a filter goes into, it is the same
text with the same values, or the same error (`restrict_alike`): no statement loses a restriction
that another one keeps.
-/

namespace RowQuery

/-! ## Selects and deletes -/

/-- The line of a fragment is empty, or its word with a text behind it. -/
theorem Fragment.whereClause_getD_eq (f : Fragment) : f.whereClause?.getD "" = "" ∨
    ∃ text, text ≠ "" ∧ f.whereClause?.getD "" = "WHERE " ++ text := by
  unfold whereClause?
  cases hempty : f.isEmpty with
  | true => exact .inl rfl
  | false =>
    refine .inr ⟨f.wrapped, ?_, rfl⟩
    unfold wrapped
    split
    · simp
    · exact String.isEmpty_eq_false_iff.1 hempty

/-- The lines of a fragment are its line, unless that is empty. -/
theorem Fragment.whereClause_toList_eq (f : Fragment) : f.whereClause?.toList =
    if f.whereClause?.getD "" = "" then [] else [f.whereClause?.getD ""] := by
  unfold whereClause?
  cases f.isEmpty with
  | true => rfl
  | false => simp

/-- The parts of a select beside its filter are written as these lines, before that of the filter
and behind it. -/
def Select.Framed (s : Select) (before after : List String) : Prop :=
  ∃ fieldsLine groupLine orderLine, s.fieldsLine = .ok fieldsLine ∧ s.groupLine = .ok groupLine ∧
    s.orderLine = .ok orderLine ∧ before = fieldsLine :: s.joinLines ∧
    after = [groupLine, orderLine, limitLine s.limit? s.skip?]

/-- A select whose other parts can be written is written, or refused, as its filter is. -/
theorem Select.statement_eq_of_framed {s : Select} {before after : List String}
    (h : s.Framed before after) :
    s.statement = (Condition.filterFragment s.filter?).map fun f =>
      { sql := Sql.ofLines (before ++ f.whereClause?.getD "" :: after)
        placedValues := f.values } := by
  obtain ⟨fieldsLine, groupLine, orderLine, hfields, hgroup, horder, rfl, rfl⟩ := h
  rw [statement, hfields, hgroup, horder]
  cases Condition.filterFragment s.filter? with
  | error e => rfl
  | ok f => rfl

/-- A delete is written, or refused, as its filter is. -/
theorem Delete.statement_eq (delete : Delete) :
    delete.statement = (Condition.filterFragment delete.filter?).map fun f =>
      { sql := Sql.ofLines (("DELETE FROM " ++ delete.table) :: f.whereClause?.toList),
        placedValues := f.values } := by
  rw [statement]
  cases Condition.filterFragment delete.filter? with
  | error e => rfl
  | ok f => rfl

/-- A select and a delete restrict the rows alike; the lines of the select beside that of its filter
are given. -/
structure RestrictAlike (s : Select) (delete : Delete) (before after : List String) : Prop where
  /-- Both fail with the same error, or both are written. -/
  error_iff : ∀ e, s.statement = .error e ↔ delete.statement = .error e
  /-- The delete has the line of the select exactly when that is not empty, and the same values. -/
  written : ∀ st st', s.statement = .ok st → delete.statement = .ok st' → ∃ line,
    st.sql = Sql.ofLines (before ++ line :: after) ∧
      st'.sql = Sql.ofLines (("DELETE FROM " ++ delete.table) :: if line = "" then [] else [line]) ∧
      (line = "" ∨ ∃ text, text ≠ "" ∧ line = "WHERE " ++ text) ∧
      st'.placedValues = st.placedValues

/-- With the same filter, a select whose other parts can be written and a delete restrict the rows
alike. -/
theorem restrictAlike_of_framed {s : Select} {delete : Delete} {before after : List String}
    (h : s.Framed before after) (hfilter : s.filter? = delete.filter?) :
    RestrictAlike s delete before after where
  error_iff e := by
    rw [Select.statement_eq_of_framed h, delete.statement_eq, hfilter]
    cases Condition.filterFragment delete.filter? <;> simp [Except.map]
  written st st' hst hst' := by
    rw [Select.statement_eq_of_framed h, hfilter] at hst
    rw [delete.statement_eq] at hst'
    obtain ⟨f, hf, rfl⟩ := map_eq_ok.1 hst
    obtain ⟨f', hf', rfl⟩ := map_eq_ok.1 hst'
    cases hf.symm.trans hf'
    exact ⟨_, rfl, by rw [f.whereClause_toList_eq], f.whereClause_getD_eq, rfl⟩

/-! ## Updates -/

namespace Update

variable {update : Update} {settings : List (String × Scalar)}

/-- The comparisons of an update as one condition. -/
def group (update : Update) : Condition := .group .and (update.filter.map .compare)

/-- There is something to set, and it can be written so. -/
def Sets (update : Update) (settings : List (String × Scalar)) : Prop :=
  update.assignments.entries ≠ [] ∧
    update.assignments.entries.mapM (fun entry => assignment entry.1 entry.2) = .ok settings

/-- The group is written as its comparisons are, joined. -/
theorem fragment_group (update : Update) :
    update.group.fragment 0 =
      (update.filter.mapM Comparison.fragment).map (Fragment.join .and) := by
  have hmembers (l : List Comparison) :
      (l.map Condition.compare).mapM (Condition.fragment 1) = l.mapM Comparison.fragment := by
    induction l with
    | nil => rfl
    | cons c l ih =>
      rw [List.map_cons, List.mapM_cons, List.mapM_cons, ih]
      rfl
  rw [group, Condition.fragment, if_neg (by decide), Condition.fragments_eq_mapM, hmembers]

/-- Comparisons that are written stand beside each other without parentheses. -/
theorem join_and_eq {members : List Fragment} (hne : members ≠ [])
    (h : ∀ f ∈ members, f.isEmpty = false ∧ f.needsParens = false) :
    (Fragment.join .and members).sql = " AND ".intercalate (members.map Fragment.sql) ∧
      (Fragment.join .and members).values = members.flatMap Fragment.values := by
  have hwrapped : members.map Fragment.wrapped = members.map Fragment.sql :=
    List.map_congr_left fun f hf => by rw [Fragment.wrapped, (h f hf).2]; rfl
  cases members with
  | nil => exact absurd rfl hne
  | cons f rest =>
    cases rest with
    | nil => simp [Fragment.join, (h f List.mem_cons_self).1]
    | cons f' rest =>
      rw [Fragment.join_several .and (by simp) fun f hf => (h f hf).1]
      exact ⟨congrArg " AND ".intercalate hwrapped, rfl⟩

/-- An update with comparisons, and with something to set that can be written, is written with the
group of its comparisons behind `WHERE`, or refused as the group is. -/
theorem statement_eq_group (hne : update.filter ≠ []) (hset : update.Sets settings) :
    update.statement = (update.group.fragment 0).map fun f =>
      { sql := Sql.ofLines ["UPDATE " ++ update.table,
          "SET " ++ ", ".intercalate (settings.map Prod.fst), "WHERE " ++ f.sql]
        placedValues := settings.map Prod.snd ++ f.values } := by
  obtain ⟨hentries, hsettings⟩ := hset
  have hentries : update.assignments.entries.isEmpty = false := by simpa using hentries
  rw [statement, hsettings, hentries, fragment_group]
  cases hmembers : update.filter.mapM Comparison.fragment with
  | error e => rfl
  | ok members =>
    -- a comparison has text and needs no parentheses, so the group joins what the update joins
    have hwritten := mapM_eq_ok.1 hmembers
    have hnonempty : members ≠ [] := by
      rintro rfl
      exact hne (List.forall₂_nil_right_iff.1 hwritten)
    have hplain : ∀ f ∈ members, f.isEmpty = false ∧ f.needsParens = false := by
      intro f hf
      obtain ⟨c, -, hc⟩ := exists_of_forall₂ hwritten.flip hf
      obtain ⟨-, -, rfl⟩ := Comparison.fragment_eq_ok.1 hc
      exact ⟨String.isEmpty_eq_false_iff.2 c.written_sql_ne_empty, rfl⟩
    obtain ⟨hsql, hvalues⟩ := join_and_eq hnonempty hplain
    have hline : whereLine members = "WHERE " ++ (Fragment.join .and members).sql := by
      rw [whereLine, if_neg (by simpa using hnonempty), hsql]
    show Except.ok _ = Except.ok _
    rw [hline, ← hvalues]

/-- An update restricts the rows as the group of its comparisons does. -/
structure RestrictsAsGroup (update : Update) (settings : List (String × Scalar)) : Prop where
  /-- Both fail with the same error, or both are written. -/
  error_iff : ∀ e, update.statement = .error e ↔ update.group.fragment 0 = .error e
  /-- The text behind `WHERE` and the values behind those that are set are those of the group. -/
  written : ∀ st f, update.statement = .ok st → update.group.fragment 0 = .ok f →
    st.sql = Sql.ofLines ["UPDATE " ++ update.table,
      "SET " ++ ", ".intercalate (settings.map Prod.fst), "WHERE " ++ f.sql] ∧
    st.placedValues = settings.map Prod.snd ++ f.values

end Update

/-! ## The result -/

/-- A select and a delete with the same filter restrict the rows alike, and an update restricts them
as the group of its comparisons does. -/
theorem restrict_alike :
    (∀ (s : Select) (delete : Delete) (before after : List String), s.Framed before after →
      s.filter? = delete.filter? → RestrictAlike s delete before after) ∧
    ∀ (update : Update) (settings : List (String × Scalar)), update.filter ≠ [] →
      update.Sets settings → update.RestrictsAsGroup settings := by
  refine ⟨fun s delete before after h hfilter => restrictAlike_of_framed h hfilter, ?_⟩
  intro update settings hne hset
  refine ⟨fun e => ?_, fun st f hst hf => ?_⟩
  · rw [Update.statement_eq_group hne hset]
    cases update.group.fragment 0 <;> simp [Except.map]
  · rw [Update.statement_eq_group hne hset, hf] at hst
    cases hst
    exact ⟨rfl, rfl⟩

/-- A sorted select and a delete by either of two comparisons have the same line, and an update by
two comparisons is written as the group of both. -/
theorem restrict_alike_of_two_comparisons :
    let first : Comparison := ⟨"a", .ge, .single (.int 1)⟩
    let second : Comparison := ⟨"b", .isIn, .list [.text "x", .text "y"]⟩
    let filter? := some (Condition.group .or [.compare first, .group .and [], .compare second])
    let s : Select := { table := "t", filter?, orderBy := [⟨"a", .ascending⟩] }
    let delete : Delete := ⟨"t", filter?⟩
    let update : Update := ⟨"t", .ofFields [("c", .bool true)], [first, second]⟩
    let line := "WHERE (`a` >= ? OR `b` IN (?, ?))"
    let placedValues : List Scalar := [.int 1, .text "x", .text "y"]
    RestrictAlike s delete ["SELECT * FROM t", ""] ["", "ORDER BY `a` ASC", ""] ∧
      update.RestrictsAsGroup [("`c` = ?", .bool true)] ∧
      s.statement =
        .ok ⟨Sql.ofLines ["SELECT * FROM t", "", line, "", "ORDER BY `a` ASC", ""], placedValues⟩ ∧
      delete.statement = .ok ⟨Sql.ofLines ["DELETE FROM t", line], placedValues⟩ ∧
      update.statement =
        .ok ⟨Sql.ofLines ["UPDATE t", "SET `c` = ?", "WHERE `a` >= ? AND `b` IN (?, ?)"],
          .bool true :: placedValues⟩ := by
  intro first second filter? s delete update line placedValues
  have hframed : s.Framed ["SELECT * FROM t", ""] ["", "ORDER BY `a` ASC", ""] :=
    ⟨_, _, _, rfl, rfl, rfl, rfl, rfl⟩
  have hset : update.Sets [("`c` = ?", .bool true)] := ⟨List.cons_ne_nil _ _, rfl⟩
  have hfilter : Condition.filterFragment filter? =
      .ok ⟨"`a` >= ? OR `b` IN (?, ?)", placedValues, true⟩ := by cbv
  have hgroup : update.group.fragment 0 =
      .ok ⟨"`a` >= ? AND `b` IN (?, ?)", placedValues, true⟩ := by cbv
  refine ⟨restrict_alike.1 s delete _ _ hframed rfl,
    restrict_alike.2 update _ (List.cons_ne_nil _ _) hset, ?_, ?_, ?_⟩
  · rw [Select.statement_eq_of_framed hframed, hfilter]
    rfl
  · rw [delete.statement_eq, hfilter]
    rfl
  · rw [Update.statement_eq_group (List.cons_ne_nil _ _) hset, hgroup]
    rfl

end RowQuery
