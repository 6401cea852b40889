import RowQuery.Proofs.Condition.Alike
import RowQuery.Proofs.Statement.Lines

/-!
# Values and names do not reach the syntax of statements

Two descriptions are alike when they differ only in the scalars that are bound to markers and in
column names, which are related (`Select.Alike`, `Delete.Alike`, `Update.Alike`, `Insert.Alike`).
They are written alike, both or neither: as texts that are related by every relation that writing
keeps. For equality that is to say that values never change the text, and for equality outside of
quoted segments that names never do there (`parameters_stay_apart`).
-/

namespace RowQuery

variable {ρ r : String → String → Prop}

/-! ## Descriptions that differ in scalars and names -/

/-- The cells are the same, or both are scalars. -/
def Json.Alike (v v' : Json) : Prop :=
  v = v' ∨ ∃ a a', Scalar.ofJson v = .ok a ∧ Scalar.ofJson v' = .ok a'

/-- The rows have alike cells under related columns, in the same order. -/
def Row.Alike (ρ : String → String → Prop) (row row' : Row) : Prop :=
  List.Forall₂ (fun entry entry' => ρ entry.1 entry'.1 ∧ entry.2.Alike entry'.2) row.entries
    row'.entries

/-- The selects differ only in the scalars of their filters and in columns, which are related. -/
structure Select.Alike (ρ : String → String → Prop) (s s' : Select) : Prop where
  table : s.table = s'.table
  alias? : s.alias? = s'.alias?
  fields : List.Forall₂ ρ s.fields s'.fields
  joins : s.joins = s'.joins
  filter? : Option.Rel (Condition.Alike ρ) s.filter? s'.filter?
  orderBy : List.Forall₂ (fun key key' => ρ key.column key'.column ∧
    key.direction = key'.direction) s.orderBy s'.orderBy
  groupBy : List.Forall₂ ρ s.groupBy s'.groupBy
  limit? : s.limit? = s'.limit?
  skip? : s.skip? = s'.skip?

/-- The deletes differ only in the scalars of their filters and in columns, which are related. -/
structure Delete.Alike (ρ : String → String → Prop) (delete delete' : Delete) : Prop where
  table : delete.table = delete'.table
  filter? : Option.Rel (Condition.Alike ρ) delete.filter? delete'.filter?

/-- The updates differ only in scalars and in columns, which are related. -/
structure Update.Alike (ρ : String → String → Prop) (update update' : Update) : Prop where
  table : update.table = update'.table
  assignments : update.assignments.Alike ρ update'.assignments
  filter : List.Forall₂ (Comparison.Alike ρ) update.filter update'.filter

/-- The inserts differ only in scalars. -/
structure Insert.Alike (insert insert' : Insert) : Prop where
  table : insert.table = insert'.table
  rows : List.Forall₂ (Row.Alike Eq) insert.rows insert'.rows
  insertType : insert.insertType = insert'.insertType

/-! ## Selects -/

/-- A table with its alias. -/
theorem Sql.Congruence.tableReference (hr : Congruence ρ r) {table : String}
    {alias? : Option String} (htable : r table table)
    (halias : ∀ name ∈ alias?.toList, r name name) :
    r (tableReference table alias?) (tableReference table alias?) := by
  cases alias? with
  | none => exact htable
  | some name =>
    exact hr.append (hr.before htable (by decide)) (halias name (List.mem_singleton.2 rfl))

/-- The line of a join. -/
theorem Sql.Congruence.join_line (hr : Congruence ρ r) {join : Join}
    (given : ∀ text ∈ join.texts, r text text) : r join.line join.line := by
  obtain ⟨htable, hothers⟩ := List.forall_mem_cons.1 given
  obtain ⟨halias, hnames⟩ := List.forall_mem_append.1 hothers
  have hkeyword : backquote ∉ join.kind.keyword.toList := by
    cases join.kind <;> decide
  have hpairs : List.Forall₂ r (join.on.map JoinPair.text) (join.on.map JoinPair.text) := by
    rw [List.forall₂_map_left_iff, List.forall₂_map_right_iff]
    refine List.forall₂_same.2 fun pair hpair => ?_
    have hleft := hnames pair.left (List.mem_flatMap.2 ⟨pair, hpair, by simp⟩)
    have hright := hnames pair.right (List.mem_flatMap.2 ⟨pair, hpair, by simp⟩)
    have hoperator : backquote ∉ pair.operator.text.toList := by
      cases pair.operator <;> decide
    exact hr.append (hr.before (hr.before (hr.before hleft (by decide)) hoperator) (by decide))
      hright
  exact hr.append (hr.before (hr.append (hr.before (hr.fixed hkeyword) (by decide))
    (hr.tableReference htable halias)) (by decide)) (hr.intercalate (by decide) hpairs)

namespace Select

variable {s s' : Select}

/-- The lines of fields and table are alike. -/
theorem Alike.fieldsLine (hr : Sql.Congruence ρ r) (h : s.Alike ρ s')
    (given : ∀ text ∈ s.texts, r text text) : SameOutcome r s.fieldsLine s'.fieldsLine := by
  obtain ⟨htable, hothers⟩ := List.forall_mem_cons.1 given
  obtain ⟨halias, -⟩ := List.forall_mem_append.1 hothers
  have hlist : SameOutcome r s.fieldList s'.fieldList := by
    have hfields := h.fields
    unfold fieldList
    generalize s.fields = fields, s'.fields = fields' at hfields
    cases hfields with
    | nil => exact .ok (hr.fixed (by decide))
    | cons hname hrest => exact hr.quoteList (.cons hname hrest)
  rw [fieldsLine_eq, fieldsLine_eq, ← h.table, ← h.alias?]
  refine hlist.map fun fields fields' hfields => ?_
  exact hr.append (hr.before (hr.after (by decide) hfields) (by decide))
    (hr.tableReference htable halias)

/-- The lines of joins are alike. -/
theorem Alike.joinLines (hr : Sql.Congruence ρ r) (h : s.Alike ρ s')
    (given : ∀ text ∈ s.texts, r text text) : List.Forall₂ r s.joinLines s'.joinLines := by
  obtain ⟨-, hothers⟩ := List.forall_mem_cons.1 given
  obtain ⟨-, hjoins⟩ := List.forall_mem_append.1 hothers
  unfold Select.joinLines
  rw [← h.joins]
  split
  · exact .cons hr.empty .nil
  · rw [List.forall₂_map_left_iff, List.forall₂_map_right_iff]
    exact List.forall₂_same.2 fun join hjoin =>
      hr.join_line fun text ht => hjoins text (List.mem_flatMap.2 ⟨join, hjoin, ht⟩)

/-- The lines of grouping columns are alike. -/
theorem Alike.groupLine (hr : Sql.Congruence ρ r) (h : s.Alike ρ s') :
    SameOutcome r s.groupLine s'.groupLine := by
  have hgroupBy := h.groupBy
  unfold Select.groupLine
  generalize s.groupBy = columns, s'.groupBy = columns' at hgroupBy
  cases hgroupBy with
  | nil => exact .ok hr.empty
  | cons hname hrest =>
    exact (hr.quoteList (.cons hname hrest)).map fun _ _ hcolumns => hr.after (by decide) hcolumns

/-- The lines of sort keys are alike. -/
theorem Alike.orderLine (hr : Sql.Congruence ρ r) (h : s.Alike ρ s') :
    SameOutcome r s.orderLine s'.orderLine := by
  have hkey : ∀ key key' : OrderKey, (ρ key.column key'.column ∧ key.direction = key'.direction) →
      SameOutcome r key.sql key'.sql := by
    intro key key' ⟨hcolumn, hdirection⟩
    have htext : Sql.backquote ∉ key'.direction.text.toList := by
      cases key'.direction <;> decide
    unfold OrderKey.sql
    rw [hdirection]
    exact (hr.name hcolumn).map fun _ _ hname => hr.before (hr.before hname (by decide)) htext
  have horderBy := h.orderBy.imp hkey
  unfold Select.orderLine
  generalize s.orderBy = keys, s'.orderBy = keys' at horderBy
  cases horderBy with
  | nil => exact .ok hr.empty
  | cons hfirst hrest =>
    exact (SameOutcome.mapM (.cons hfirst hrest)).map fun _ _ htexts =>
      hr.after (by decide) (hr.commaSeparated htexts)

/-- Selects that are alike are written alike, both or neither. -/
theorem Alike.statement (hr : Sql.Congruence ρ r) (h : s.Alike ρ s')
    (given : ∀ text ∈ s.texts ++ s.filter?.toList.flatMap Condition.texts, r text text) :
    SameOutcome (fun st st' => r st.sql st'.sql) s.statement s'.statement := by
  obtain ⟨htexts, hfilter⟩ := List.forall_mem_append.1 given
  unfold Select.statement
  refine (h.fieldsLine hr htexts).bind fun fieldsLine fieldsLine' hfieldsLine => ?_
  refine (Condition.alike_filterFragment hr h.filter? hfilter).bind fun filter filter' hf => ?_
  refine (h.groupLine hr).bind fun groupLine groupLine' hgroupLine => ?_
  refine (h.orderLine hr).bind fun orderLine orderLine' horderLine => ?_
  have hwhere : r (filter.whereClause?.getD "") (filter'.whereClause?.getD "") := by
    have hclause := hf.whereClause? hr
    generalize filter.whereClause? = clause?, filter'.whereClause? = clause?' at hclause ⊢
    cases hclause with
    | none => exact hr.empty
    | some hclause => exact hclause
  have hlimit : r (limitLine s.limit? s.skip?) (limitLine s'.limit? s'.skip?) := by
    rw [← h.limit?, ← h.skip?]
    exact hr.fixed (plain_limitLine _ _).1
  have hbefore := List.Forall₂.cons hfieldsLine (h.joinLines hr htexts)
  exact .ok (hr.ofLines (List.rel_append hbefore
    (.cons hwhere (.cons hgroupLine (.cons horderLine (.cons hlimit .nil))))))

end Select

/-! ## Changes -/

/-- Deletes that are alike are written alike, both or neither. -/
theorem Delete.Alike.statement (hr : Sql.Congruence ρ r) {delete delete' : Delete}
    (h : delete.Alike ρ delete')
    (given : ∀ text ∈ delete.table :: delete.filter?.toList.flatMap Condition.texts,
      r text text) :
    SameOutcome (fun st st' => r st.sql st'.sql) delete.statement delete'.statement := by
  obtain ⟨htable, hfilter⟩ := List.forall_mem_cons.1 given
  unfold Delete.statement
  refine (Condition.alike_filterFragment hr h.filter? hfilter).bind fun filter filter' hf => ?_
  have hclause := hf.whereClause? hr
  have hlines : List.Forall₂ r filter.whereClause?.toList filter'.whereClause?.toList := by
    generalize filter.whereClause? = clause?, filter'.whereClause? = clause?' at hclause ⊢
    cases hclause with
    | none => exact .nil
    | some hclause => exact .cons hclause .nil
  rw [← h.table]
  exact .ok (hr.ofLines (.cons (hr.after (by decide) htable) hlines))

/-- Alike cells are both read as scalars, or both are not. -/
theorem Json.Alike.ofJson {v v' : Json} (h : v.Alike v') :
    SameOutcome (fun _ _ => True) (Scalar.ofJson v) (Scalar.ofJson v') := by
  rcases h with rfl | ⟨a, a', ha, ha'⟩
  · exact .refl (fun _ => trivial) _
  · rw [ha, ha']
    exact .ok trivial

namespace Update

/-- Assignments of alike cells to related columns are written alike. -/
theorem alike_assignment (hr : Sql.Congruence ρ r) {column column' : String} {v v' : Json}
    (hcolumn : ρ column column') (hv : v.Alike v') :
    SameOutcome (fun setting setting' => r setting.1 setting'.1) (assignment column v)
      (assignment column' v') := by
  unfold assignment
  refine (hr.name hcolumn).bind fun name name' hname => ?_
  exact hv.ofJson.mapError.bind fun _ _ _ => .ok (hr.before hname (by decide))

/-- The last lines of updates with alike comparisons are alike. -/
theorem alike_whereLine (hr : Sql.Congruence ρ r) {members members' : List Fragment}
    (h : List.Forall₂ (Fragment.Alike r) members members') :
    r (whereLine members) (whereLine members') := by
  cases h with
  | nil => exact hr.fixed (by decide)
  | cons hf hrest =>
    have htexts := (List.Forall₂.cons hf hrest).imp fun _ _ hf => hf.sql
    rw [← List.forall₂_map_right_iff, ← List.forall₂_map_left_iff] at htexts
    exact hr.after (by decide) (hr.intercalate (by decide) htexts)

/-- Updates that are alike are written alike, both or neither. -/
theorem Alike.statement (hr : Sql.Congruence ρ r) {update update' : Update}
    (h : update.Alike ρ update') (given : r update.table update.table) :
    SameOutcome (fun st st' => r st.sql st'.sql) update.statement update'.statement := by
  have hentries : update.assignments.entries.isEmpty = update'.assignments.entries.isEmpty := by
    rw [Bool.eq_iff_iff, List.isEmpty_iff_length_eq_zero, List.isEmpty_iff_length_eq_zero,
      h.assignments.length_eq]
  have hassignments : List.Forall₂ (fun entry entry' => SameOutcome
      (fun setting setting' => r setting.1 setting'.1) (assignment entry.1 entry.2)
      (assignment entry'.1 entry'.2)) update.assignments.entries update'.assignments.entries :=
    h.assignments.imp fun _ _ hentry => alike_assignment hr hentry.1 hentry.2
  have hsettings := SameOutcome.mapM hassignments
  have hmembers := SameOutcome.mapM (h.filter.imp fun _ _ hc => hc.fragment hr)
  unfold Update.statement
  rw [hentries]
  dsimp only
  split
  · exact .error _ _
  · refine hsettings.bind fun settings settings' hs => ?_
    refine hmembers.bind fun members members' hm => ?_
    have hset : List.Forall₂ r (settings.map Prod.fst) (settings'.map Prod.fst) := by
      rw [List.forall₂_map_left_iff, List.forall₂_map_right_iff]
      exact hs
    rw [← h.table]
    exact .ok (hr.ofLines (.cons (hr.after (by decide) given)
      (.cons (hr.after (by decide) (hr.commaSeparated hset))
        (.cons (alike_whereLine hr hm) .nil))))

end Update

/-! ## Inserts -/

/-- Alike rows have the same columns. -/
theorem Row.Alike.columns_eq {row row' : Row} (h : row.Alike Eq row') :
    row.columns = row'.columns := by
  have hcolumns := h.imp fun _ _ hentry => hentry.1
  rw [← List.forall₂_map_right_iff, ← List.forall₂_map_left_iff, List.forall₂_eq_eq_eq] at hcolumns
  exact hcolumns

/-- Alike rows have alike cells in every column. -/
theorem Row.Alike.get? {row row' : Row} (h : row.Alike Eq row') (column : String) :
    Option.Rel Json.Alike (row.get? column) (row'.get? column) := by
  unfold Row.Alike at h
  unfold Row.get?
  generalize row.entries = entries, row'.entries = entries' at h ⊢
  induction h with
  | nil => exact .none
  | cons hentry _ ih =>
    obtain ⟨hkey, hcell⟩ := hentry
    rw [Json.field?, Json.field?, hkey]
    split
    · exact .some hcell
    · exact ih

namespace Insert

/-- The cells of alike rows are all read, or not all. -/
theorem alike_insertCells {row row' : Row} (h : row.Alike Eq row') (position : Nat)
    (columns : List String) :
    SameOutcome (fun _ _ => True) (insertCells position row columns)
      (insertCells position row' columns) := by
  have hcells : SameOutcome (List.Forall₂ fun _ _ => True) (insertCells position row columns)
      (insertCells position row' columns) := by
    refine SameOutcome.mapM (List.forall₂_same.2 fun column _ => ?_)
    have hcell := h.get? column
    generalize row.get? column = cell?, row'.get? column = cell?' at hcell ⊢
    cases hcell with
    | none => exact .error _ _
    | some hcell => exact hcell.ofJson.mapError
  exact hcells.imp fun _ _ _ => trivial

/-- The cells of many alike rows are all read, or not all. -/
theorem alike_allCells {rows rows' : List Row} (h : List.Forall₂ (Row.Alike Eq) rows rows')
    (columns : List String) (position : Nat) :
    SameOutcome (fun _ _ => True) (allCells columns position rows)
      (allCells columns position rows') := by
  induction h generalizing position with
  | nil => exact .ok trivial
  | cons hrow _ ih =>
    rw [allCells, allCells]
    exact (alike_insertCells hrow position columns).bind fun _ _ _ =>
      (ih (position + 1)).bind fun _ _ _ => .ok trivial

/-- Alike rows have the same header, or none. -/
theorem alike_validateRows {rows rows' : List Row} (h : List.Forall₂ (Row.Alike Eq) rows rows') :
    SameOutcome (fun header header' => header.1 = header'.1) (validateRows rows)
      (validateRows rows') := by
  cases h with
  | nil => exact .error _ _
  | cons hfirst hrest =>
    unfold validateRows
    dsimp only
    rw [hfirst.columns_eq]
    exact (alike_allCells (.cons hfirst hrest) _ 0).map fun _ _ _ => rfl

/-- Inserts that are alike are written as the same text, both or neither. -/
theorem Alike.statement {insert insert' : Insert} (h : insert.Alike insert') :
    SameOutcome (fun st st' => st.sql = st'.sql) insert.statement insert'.statement := by
  unfold Insert.statement
  refine (alike_validateRows h.rows).bind fun header header' hheader => ?_
  obtain ⟨columns, cells⟩ := header
  obtain ⟨columns', cells'⟩ := header'
  obtain rfl : columns = columns' := hheader
  rw [← h.table, ← h.insertType, ← h.rows.length_eq]
  exact .ok rfl

end Insert

/-! ## All of them -/

/-- Values never reach the text of a statement, and names never reach the text outside of quoted
segments. Descriptions that differ only in scalars are written as the same text, both or neither.
Descriptions that differ only in scalars and in column names, which can be quoted and have as many
segments and stars in the same places, are written as texts that are the same when what their quoted
segments hold is erased, provided that the texts that stand as they are given close theirs. -/
theorem parameters_stay_apart :
    ((∀ s s' : Select, s.Alike Eq s' →
        SameOutcome (fun st st' => st.sql = st'.sql) s.statement s'.statement) ∧
      (∀ delete delete' : Delete, delete.Alike Eq delete' →
        SameOutcome (fun st st' => st.sql = st'.sql) delete.statement delete'.statement) ∧
      (∀ update update' : Update, update.Alike Eq update' →
        SameOutcome (fun st st' => st.sql = st'.sql) update.statement update'.statement) ∧
      ∀ insert insert' : Insert, insert.Alike insert' →
        SameOutcome (fun st st' => st.sql = st'.sql) insert.statement insert'.statement) ∧
    (∀ s s' : Select, s.Alike Sql.SameShape s' →
      (∀ text ∈ s.texts ++ s.filter?.toList.flatMap Condition.texts, Sql.Balanced text) →
      SameOutcome (fun st st' => Sql.erased st.sql = Sql.erased st'.sql) s.statement
        s'.statement) ∧
    (∀ delete delete' : Delete, delete.Alike Sql.SameShape delete' →
      (∀ text ∈ delete.table :: delete.filter?.toList.flatMap Condition.texts,
        Sql.Balanced text) →
      SameOutcome (fun st st' => Sql.erased st.sql = Sql.erased st'.sql) delete.statement
        delete'.statement) ∧
    ∀ update update' : Update, update.Alike Sql.SameShape update' → Sql.Balanced update.table →
      SameOutcome (fun st st' => Sql.erased st.sql = Sql.erased st'.sql) update.statement
        update'.statement := by
  have heq := Sql.congruence_eq
  have hsame := Sql.congruence_sameErased
  refine ⟨⟨?_, ?_, ?_, ?_⟩, ?_, ?_, ?_⟩
  · exact fun s s' h => h.statement heq fun _ _ => rfl
  · exact fun delete delete' h => h.statement heq fun _ _ => rfl
  · exact fun update update' h => h.statement heq rfl
  · exact fun insert insert' h => h.statement
  · intro s s' h balanced
    have houtcome := h.statement hsame fun text ht => .refl (balanced text ht)
    exact houtcome.imp fun _ _ hst => hst.erased_eq
  · intro delete delete' h balanced
    have houtcome := h.statement hsame fun text ht => .refl (balanced text ht)
    exact houtcome.imp fun _ _ hst => hst.erased_eq
  · intro update update' h balanced
    exact (h.statement hsame (.refl balanced)).imp fun _ _ hst => hst.erased_eq

/-- Filters, an update and an insert with other scalars, and with a column whose name is another of
the same shape. -/
theorem parameters_stay_apart_of_hostile_values :
    let filter (column : String) (v w : Scalar) : Condition :=
      .group .or [.isIn column [v, w], .raw "`b` = ?" [w]]
    let select (column : String) (v w : Scalar) : Select :=
      { table := "t", fields := [column], filter? := some (filter column v w) }
    let delete (column : String) (v w : Scalar) : Delete :=
      { table := "t", filter? := some (filter column v w) }
    let update (column : String) (v : Scalar) : Update :=
      { table := "t", assignments := .ofScalars [(column, v)]
        filter := [⟨column, .eq, .single v⟩] }
    let insert (v : Scalar) : Insert := { table := "t", rows := [.ofScalars [("a", v)]] }
    SameOutcome (fun st st' => st.sql = st'.sql)
      (select "a.*" (.text "' OR 1 --") .null).statement
      (select "a.*" (.int 1) (.bool true)).statement ∧
    SameOutcome (fun st st' => st.sql = st'.sql)
      (delete "a.*" (.text "' OR 1 --") .null).statement
      (delete "a.*" (.int 1) (.bool true)).statement ∧
    SameOutcome (fun st st' => st.sql = st'.sql)
      (update "a" (.text "' OR 1 --")).statement (update "a" .null).statement ∧
    SameOutcome (fun st st' => st.sql = st'.sql)
      (insert (.text "' OR 1 --")).statement (insert .null).statement ∧
    SameOutcome (fun st st' => Sql.erased st.sql = Sql.erased st'.sql)
      (select "a.*" (.int 1) .null).statement (select "x? OR (.*" .null (.int 2)).statement ∧
    SameOutcome (fun st st' => Sql.erased st.sql = Sql.erased st'.sql)
      (delete "a.*" (.int 1) .null).statement (delete "x? OR (.*" .null (.int 2)).statement ∧
    SameOutcome (fun st st' => Sql.erased st.sql = Sql.erased st'.sql)
      (update "a" (.int 1)).statement (update "x? OR (" .null).statement := by
  intro filter select delete update insert
  have hshape : Sql.SameShape "a.*" "x? OR (.*" := ⟨by decide, by decide, by decide⟩
  have hshape' : Sql.SameShape "a" "x? OR (" := ⟨by decide, by decide, by decide⟩
  have hfilter : ∀ (ρ : String → String → Prop) (column column' : String) (v w v' w' : Scalar),
      ρ column column' → (filter column v w).Alike ρ (filter column' v' w') :=
    fun ρ column column' v w v' w' h =>
      .group .or (.cons (.compare ⟨h, rfl, rfl⟩) (.cons (.raw "`b` = ?" [w] [w']) .nil))
  have hselect : ∀ (ρ : String → String → Prop) (column column' : String) (v w v' w' : Scalar),
      ρ column column' → (select column v w).Alike ρ (select column' v' w') :=
    fun ρ column column' v w v' w' h => {
      table := rfl, alias? := rfl, fields := .cons h .nil, joins := rfl
      filter? := .some (hfilter ρ column column' v w v' w' h), orderBy := .nil, groupBy := .nil
      limit? := rfl, skip? := rfl }
  have hdelete : ∀ (ρ : String → String → Prop) (column column' : String) (v w v' w' : Scalar),
      ρ column column' → (delete column v w).Alike ρ (delete column' v' w') :=
    fun ρ column column' v w v' w' h => ⟨rfl, .some (hfilter ρ column column' v w v' w' h)⟩
  have hbalanced : ∀ text ∈ ["t", "`b` = ?"], Sql.Balanced text := by decide
  have htext : Json.Alike (Scalar.text "' OR 1 --").toJson Scalar.null.toJson :=
    .inr ⟨_, _, rfl, rfl⟩
  have hnumber : Json.Alike (Scalar.int 1).toJson Scalar.null.toJson := .inr ⟨_, _, rfl, rfl⟩
  obtain ⟨⟨hs, hd, hu, hi⟩, hs', hd', hu'⟩ := parameters_stay_apart
  refine ⟨?_, ?_, ?_, ?_, ?_, ?_, ?_⟩
  · exact hs _ _ (hselect Eq "a.*" "a.*" _ _ _ _ rfl)
  · exact hd _ _ (hdelete Eq "a.*" "a.*" _ _ _ _ rfl)
  · exact hu _ _ ⟨rfl, .cons ⟨rfl, htext⟩ .nil, .cons ⟨rfl, rfl, trivial⟩ .nil⟩
  · exact hi _ _ ⟨rfl, .cons (.cons ⟨rfl, htext⟩ .nil) .nil, rfl⟩
  · exact hs' _ _ (hselect Sql.SameShape _ _ _ _ _ _ hshape) hbalanced
  · exact hd' _ _ (hdelete Sql.SameShape _ _ _ _ _ _ hshape) hbalanced
  · have hupdate : (update "a" (.int 1)).Alike Sql.SameShape (update "x? OR (" .null) :=
      ⟨rfl, .cons ⟨hshape', hnumber⟩ .nil, .cons ⟨hshape', rfl, trivial⟩ .nil⟩
    exact hu' _ _ hupdate (by decide)

end RowQuery
