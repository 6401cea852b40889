import RowQuery.Change.Delete
import RowQuery.Change.Insert
import RowQuery.Change.Update
import RowQuery.Proofs.Sql.Outline
import RowQuery.Proofs.Steps
import RowQuery.Select.Statement

/-!
# What statements are written as

One lemma for each kind of description says when it has a statement and what that is
(`Select.statement_eq_ok`, `Delete.statement_eq_ok`, `Update.statement_eq_ok`,
`Insert.statement_eq_ok`), in terms of the lines that the text is made of.
-/

namespace RowQuery

/-! ## Selects -/

/-- The texts of a join that are written as they are given. -/
def Join.texts (join : Join) : List String :=
  join.table :: (join.alias?.toList ++ join.on.flatMap fun pair => [pair.left, pair.right])

/-- The comparison of two columns in a join as it is written. -/
def JoinPair.text (pair : JoinPair) : String :=
  pair.left ++ " " ++ pair.operator.text ++ " " ++ pair.right

namespace Select

variable {s : Select}

/-- The texts of a description that are written as they are given. -/
def texts (s : Select) : List String := s.table :: (s.alias?.toList ++ s.joins.flatMap Join.texts)

/-- The fields as they are written. -/
def fieldList (s : Select) : Except QueryError String :=
  if s.fields.isEmpty then .ok "*" else Sql.quoteList s.fields

/-- The line of fields and table. -/
theorem fieldsLine_eq (s : Select) : s.fieldsLine = s.fieldList.map fun fields =>
    "SELECT " ++ fields ++ " FROM " ++ Sql.tableReference s.table s.alias? := by
  unfold fieldsLine fieldList
  split
  · rfl
  · cases Sql.quoteList s.fields <;> rfl

/-- The line of offset and row count holds neither a backquote nor a `?`. -/
theorem plain_limitLine (limit? skip? : Option UInt64) : Sql.Plain (limitLine limit? skip?) := by
  have hlimit : Sql.Plain "LIMIT " := by decide
  have hcomma : Sql.Plain ", " := by decide
  unfold limitLine
  cases limit? with
  | some limit =>
    dsimp only
    split
    · exact ((hlimit.append (Sql.plain_toString _)).append hcomma).append (Sql.plain_toString _)
    · exact hlimit.append (Sql.plain_toString _)
  | none =>
    dsimp only
    split
    · exact ((hlimit.append (Sql.plain_toString _)).append hcomma).append (Sql.plain_toString _)
    · decide

/-- When a select is written, and how. -/
theorem statement_eq_ok {st : Statement} : s.statement = .ok st ↔
    ∃ fieldsLine filter groupLine orderLine, s.fieldsLine = .ok fieldsLine ∧
      Condition.filterFragment s.filter? = .ok filter ∧ s.groupLine = .ok groupLine ∧
      s.orderLine = .ok orderLine ∧
      Statement.mk (Sql.ofLines (fieldsLine :: s.joinLines ++
        [filter.whereClause?.getD "", groupLine, orderLine, limitLine s.limit? s.skip?]))
        filter.values = st := by
  unfold statement
  simp only [bind_eq_ok, pure, Except.pure, Except.ok.injEq]
  constructor
  · rintro ⟨fieldsLine, hfields, filter, hfilter, groupLine, hgroup, orderLine, horder, rfl⟩
    exact ⟨_, _, _, _, hfields, hfilter, hgroup, horder, rfl⟩
  · rintro ⟨fieldsLine, filter, groupLine, orderLine, hfields, hfilter, hgroup, horder, rfl⟩
    exact ⟨_, hfields, _, hfilter, _, hgroup, _, horder, rfl⟩

end Select

/-! ## Changes -/

/-- When a delete is written, and how. -/
theorem Delete.statement_eq_ok {delete : Delete} {st : Statement} : delete.statement = .ok st ↔
    ∃ filter, Condition.filterFragment delete.filter? = .ok filter ∧
      Statement.mk (Sql.ofLines (("DELETE FROM " ++ delete.table) :: filter.whereClause?.toList))
        filter.values = st := by
  unfold statement
  simp only [bind_eq_ok, pure, Except.pure, Except.ok.injEq]

namespace Update

/-- When an assignment is written, and how. -/
theorem assignment_eq_ok {column : String} {value : Json} {setting : String × Scalar} :
    assignment column value = .ok setting ↔ Sql.backquote ∉ column.toList ∧
      Sql.quoted column ++ " = ?" = setting.1 ∧ Scalar.ofJson value = .ok setting.2 := by
  unfold assignment
  simp only [bind_eq_ok, Sql.quoteIdentifier_eq_ok, pure, Except.pure, Except.ok.injEq]
  constructor
  · rintro ⟨name, ⟨hcolumn, rfl⟩, scalar, hscalar, rfl⟩
    exact ⟨hcolumn, rfl, mapError_eq_ok.1 hscalar⟩
  · rintro ⟨hcolumn, hname, hscalar⟩
    exact ⟨_, ⟨hcolumn, rfl⟩, _, mapError_eq_ok.2 hscalar, Prod.ext hname rfl⟩

/-- When an update is written, and how. -/
theorem statement_eq_ok {update : Update} {st : Statement} : update.statement = .ok st ↔
    update.assignments.entries ≠ [] ∧ ∃ settings members,
      List.Forall₂ (fun entry setting => assignment entry.1 entry.2 = .ok setting)
        update.assignments.entries settings ∧
      List.Forall₂ (fun c f => c.fragment = .ok f) update.filter members ∧
      Statement.mk (Sql.ofLines ["UPDATE " ++ update.table,
        "SET " ++ ", ".intercalate (settings.map Prod.fst), whereLine members])
        (settings.map Prod.snd ++ members.flatMap Fragment.values) = st := by
  unfold statement
  dsimp only
  split
  · next h => simp [List.isEmpty_iff.1 h, throw, throwThe, MonadExceptOf.throw, bind, Except.bind]
  · next h =>
    have hentries : update.assignments.entries ≠ [] := fun he => h (List.isEmpty_iff.2 he)
    simp only [bind_eq_ok, mapM_eq_ok, pure, Except.pure, Except.ok.injEq]
    constructor
    · rintro ⟨settings, hsettings, members, hmembers, rfl⟩
      exact ⟨hentries, settings, members, hsettings, hmembers, rfl⟩
    · rintro ⟨-, settings, members, hsettings, hmembers, rfl⟩
      exact ⟨settings, hsettings, members, hmembers, rfl⟩

end Update

namespace Insert

/-- When the cells of a row are read, and which they are. -/
theorem insertCells_eq_ok {position : Nat} {row : Row} {columns : List String}
    {cells : List Scalar} : insertCells position row columns = .ok cells ↔
      List.Forall₂ (fun column cell => row.cell column = .ok cell) columns cells := by
  rw [insertCells, mapM_eq_ok]
  constructor
  · refine fun h => h.imp fun column cell hcell => ?_
    rw [Row.cell]
    cases hget : row.get? column with
    | none =>
      rw [hget] at hcell
      cases hcell
    | some value =>
      rw [hget] at hcell
      exact mapError_eq_ok.2 (mapError_eq_ok.1 hcell)
  · refine fun h => h.imp fun column cell hcell => ?_
    rw [Row.cell] at hcell
    cases hget : row.get? column with
    | none =>
      rw [hget] at hcell
      cases hcell
    | some value =>
      rw [hget] at hcell
      exact mapError_eq_ok.2 (mapError_eq_ok.1 hcell)

/-- When the cells of all rows are read, and which they are. -/
theorem allCells_eq_ok {columns : List String} {position : Nat} {rows : List Row}
    {cells : List Scalar} : allCells columns position rows = .ok cells ↔
      List.Forall₂ (fun place cell => place.1.cell place.2 = .ok cell)
        (rows.flatMap fun row => columns.map (row, ·)) cells := by
  induction rows generalizing position cells with
  | nil => simp [allCells, eq_comm]
  | cons row rows ih =>
    rw [allCells, List.flatMap_cons, forall₂_append_left]
    simp only [bind_eq_ok, insertCells_eq_ok, ih, List.forall₂_map_left_iff, pure, Except.pure,
      Except.ok.injEq]

/-- When an insert is written, and how. -/
theorem statement_eq_ok {insert : Insert} {st : Statement} : insert.statement = .ok st ↔
    ∃ first cells, insert.rows.head? = some first ∧
      List.Forall₂ (fun place cell => place.1.cell place.2 = .ok cell)
        (insert.rows.flatMap fun row => first.columns.map (row, ·)) cells ∧
      Statement.mk (Sql.ofLines [insert.insertType.keyword,
        "INTO " ++ insert.table ++ " (" ++ ", ".intercalate first.columns ++ ")",
        "VALUES " ++ ", ".intercalate (List.replicate insert.rows.length
          ("(" ++ Sql.markers first.columns.length ++ ")")),
        insert.insertType.duplicateLine first.columns]) cells = st := by
  unfold statement validateRows
  cases insert.rows with
  | nil => simp [bind, Except.bind]
  | cons first rest =>
    simp only [bind_eq_ok, map_eq_ok, allCells_eq_ok, pure, Except.pure, Except.ok.injEq]
    constructor
    · rintro ⟨_, ⟨cells, hcells, rfl⟩, rfl⟩
      exact ⟨first, cells, rfl, hcells, rfl⟩
    · rintro ⟨_, cells, hfirst, hcells, rfl⟩
      cases hfirst
      exact ⟨_, ⟨cells, hcells, rfl⟩, rfl⟩

end Insert

end RowQuery
