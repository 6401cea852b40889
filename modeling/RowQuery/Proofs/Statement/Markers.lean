import RowQuery.Proofs.Condition.Sources
import RowQuery.Proofs.Statement.Lines

/-!
# The markers of statements

In every statement the markers stand where its values come from (`Sql.Corresponds`): the sources are
the leaves of the filter, the assignments and comparisons of an update, and the cells of an insert
(`markers_correspond`). The texts of a description that are written as they are given, such as the
table, must not hold markers of their own (`Sql.Plain`).
-/

namespace RowQuery

/-! ## Texts without markers -/

namespace Sql

/-- A list of quoted names needs no values. -/
theorem paired_quoteList {names : List String} {s : String} (h : quoteList names = .ok s) :
    Paired s [] := by
  obtain ⟨hbackquote, rfl⟩ := quoteList_eq_ok.1 h
  exact .intercalate .comma (List.forall_mem_map.2 fun name hname => .quoted (hbackquote name hname))

/-- A table with its alias needs no values. -/
theorem paired_tableReference {table : String} {alias? : Option String} (htable : Plain table)
    (halias : ∀ name ∈ alias?.toList, Plain name) : Paired (tableReference table alias?) [] := by
  cases alias? with
  | none => exact .plain htable
  | some name =>
    exact ((Paired.plain htable).before (by decide)).append
      (.plain (halias name (List.mem_singleton.2 rfl)))

end Sql

/-! ## Selects -/

/-- A join of plain texts needs no values. -/
theorem Join.paired_line {join : Join} (plain : ∀ text ∈ join.texts, Sql.Plain text) :
    Sql.Paired join.line [] := by
  obtain ⟨htable, hothers⟩ := List.forall_mem_cons.1 plain
  obtain ⟨halias, hnames⟩ := List.forall_mem_append.1 hothers
  have hkeyword : Sql.Paired join.kind.keyword [] := by
    cases join.kind <;> exact .plain (by decide)
  have hpairs : ∀ text ∈ join.on.map JoinPair.text, Sql.Paired text [] := by
    intro text htext
    obtain ⟨pair, hpair, rfl⟩ := List.mem_map.1 htext
    have hleft := hnames pair.left (List.mem_flatMap.2 ⟨pair, hpair, by simp⟩)
    have hright := hnames pair.right (List.mem_flatMap.2 ⟨pair, hpair, by simp⟩)
    have hoperator : Sql.Paired pair.operator.text [] := by
      cases pair.operator <;> exact .plain (by decide)
    exact ((((Sql.Paired.plain hleft).before (by decide)).append hoperator).before
      (by decide)).append (.plain hright)
  have hreference := Sql.paired_tableReference htable halias
  exact (((hkeyword.before (by decide)).append hreference).before (by decide)).append
    (.intercalate (.plain (by decide)) hpairs)

namespace Select

variable {s : Select} {line : String}

/-- The line of fields and table needs no values. -/
theorem paired_fieldsLine (plain : ∀ text ∈ s.texts, Sql.Plain text) (h : s.fieldsLine = .ok line) :
    Sql.Paired line [] := by
  obtain ⟨htable, hothers⟩ := List.forall_mem_cons.1 plain
  obtain ⟨halias, -⟩ := List.forall_mem_append.1 hothers
  rw [fieldsLine_eq] at h
  obtain ⟨fields, hfields, rfl⟩ := map_eq_ok.1 h
  have hpaired : Sql.Paired fields [] := by
    unfold fieldList at hfields
    split at hfields
    · cases hfields
      exact .plain (by decide)
    · exact Sql.paired_quoteList hfields
  exact ((hpaired.after (by decide)).before (by decide)).append
    (Sql.paired_tableReference htable halias)

/-- The lines of joins need no values. -/
theorem paired_of_mem_joinLines (plain : ∀ text ∈ s.texts, Sql.Plain text)
    (hline : line ∈ s.joinLines) : Sql.Paired line [] := by
  obtain ⟨-, hothers⟩ := List.forall_mem_cons.1 plain
  obtain ⟨-, hjoins⟩ := List.forall_mem_append.1 hothers
  unfold joinLines at hline
  split at hline
  · rw [List.mem_singleton.1 hline]
    exact .nil
  · obtain ⟨join, hjoin, rfl⟩ := List.mem_map.1 hline
    exact join.paired_line fun text ht => hjoins text (List.mem_flatMap.2 ⟨join, hjoin, ht⟩)

/-- The line of grouping columns needs no values. -/
theorem paired_groupLine (h : s.groupLine = .ok line) : Sql.Paired line [] := by
  unfold groupLine at h
  split at h
  · cases h
    exact .nil
  · obtain ⟨columns, hcolumns, rfl⟩ := map_eq_ok.1 h
    exact (Sql.paired_quoteList hcolumns).after (by decide)

/-- The line of sort keys needs no values. -/
theorem paired_orderLine (h : s.orderLine = .ok line) : Sql.Paired line [] := by
  unfold orderLine at h
  split at h
  · cases h
    exact .nil
  · obtain ⟨keys, hkeys, rfl⟩ := map_eq_ok.1 h
    refine Sql.Paired.after (by decide) (.intercalate .comma fun text ht => ?_)
    obtain ⟨key, -, hkey⟩ := exists_of_forall₂ (mapM_eq_ok.1 hkeys).flip ht
    obtain ⟨column, hcolumn, rfl⟩ := map_eq_ok.1 hkey
    obtain ⟨hbackquote, rfl⟩ := Sql.quoteIdentifier_eq_ok.1 hcolumn
    have hdirection : Sql.Paired key.direction.text [] := by
      cases key.direction <;> exact .plain (by decide)
    exact ((Sql.Paired.quoted hbackquote).before (by decide)).append hdirection

/-- The markers of a select stand where the values of its filter come from. -/
theorem corresponds {st : Statement} (plain : ∀ text ∈ s.texts, Sql.Plain text)
    (paired : ∀ c ∈ s.filter?, c.Paired) (h : s.statement = .ok st) :
    Leaf.Supply (Condition.filterLeaves s.filter?) st.sql st.placedValues := by
  obtain ⟨fieldsLine, filter, groupLine, orderLine, hfields, hfilter, hgroup, horder, rfl⟩ :=
    statement_eq_ok.1 h
  obtain ⟨hgathers, hwritten⟩ := Condition.gathers_filterLeaves paired hfilter
  have hbefore : ∀ line ∈ fieldsLine :: s.joinLines, Sql.Paired line [] :=
    List.forall_mem_cons.2
      ⟨paired_fieldsLine plain hfields, fun line hline => paired_of_mem_joinLines plain hline⟩
  have hafter : ∀ line ∈ [groupLine, orderLine, limitLine s.limit? s.skip?],
      Sql.Paired line [] := by
    simp [paired_groupLine hgroup, paired_orderLine horder, Sql.Paired.plain (plain_limitLine _ _)]
  exact hgathers.supply hwritten (.among hbefore hgathers.laid_whereLine hafter)

end Select

/-! ## Changes -/

/-- The markers of a delete stand where the values of its filter come from. -/
theorem Delete.corresponds {delete : Delete} {st : Statement} (plain : Sql.Plain delete.table)
    (paired : ∀ c ∈ delete.filter?, c.Paired) (h : delete.statement = .ok st) :
    Leaf.Supply (Condition.filterLeaves delete.filter?) st.sql st.placedValues := by
  obtain ⟨filter, hfilter, rfl⟩ := statement_eq_ok.1 h
  obtain ⟨hgathers, hwritten⟩ := Condition.gathers_filterLeaves paired hfilter
  have hbefore : ∀ line ∈ ["DELETE FROM " ++ delete.table], Sql.Paired line [] :=
    List.forall_mem_singleton.2 ((Sql.Paired.plain plain).after (by decide))
  refine hgathers.supply hwritten ?_
  cases hclause : filter.whereClause? with
  | none =>
    rw [hgathers.eq_nil_of_whereClause hclause]
    exact .fixed (.intercalate .newline hbefore)
  | some clause =>
    have hafter : ∀ line ∈ ([] : List String), Sql.Paired line [] := nofun
    exact Sql.Laid.among hbefore (hgathers.laid_whereClause hclause) hafter

namespace Update

/-- An assignment as it is written, as the source of its value. -/
def settingSource (setting : String × Scalar) : Fragment :=
  { sql := setting.1, values := [setting.2] }

/-- An assignment has one marker, whatever characters its column holds. -/
theorem laid_setting {column : String} {value : Json} {setting : String × Scalar}
    (h : assignment column value = .ok setting) : Sql.Laid setting.1 [settingSource setting] := by
  obtain ⟨hcolumn, hname, -⟩ := assignment_eq_ok.1 h
  refine Sql.Laid.source (f := settingSource setting) ?_
  show Sql.Paired setting.1 [setting.2]
  have hplace : Sql.Paired (" = " ++ "?") [setting.2] :=
    (Sql.Paired.marker setting.2).after (by decide)
  rw [← hname]
  exact (Sql.Paired.quoted hcolumn).append hplace

/-- The comparisons of an update are the sources of its last line. -/
theorem laid_whereLine {comparisons : List Comparison} {members : List Fragment}
    (h : List.Forall₂ (fun c f => c.fragment = .ok f) comparisons members) :
    Sql.Laid (whereLine members) members := by
  have hmember : ∀ f ∈ members, Sql.Laid f.sql [f] := by
    intro f hf
    obtain ⟨c, -, hc⟩ := exists_of_forall₂ h.flip hf
    obtain ⟨hcolumn, -, rfl⟩ := Comparison.fragment_eq_ok.1 hc
    exact .source (c.paired_written hcolumn)
  have hlist := Sql.Laid.list (.plain (s := " AND ") (by decide)) hmember
  rw [List.map_id'] at hlist
  unfold whereLine
  split
  · next hempty =>
    rw [List.isEmpty_iff.1 hempty]
    exact .fixed (.plain (by decide))
  · exact hlist.after (by decide)

/-- The markers of an update stand where the assigned values and those of its comparisons come
from. -/
theorem corresponds {update : Update} {st : Statement} (plain : Sql.Plain update.table)
    (h : update.statement = .ok st) : ∃ settings members,
      List.Forall₂ (fun entry setting => assignment entry.1 entry.2 = .ok setting)
        update.assignments.entries settings ∧
      List.Forall₂ (fun c f => c.fragment = .ok f) update.filter members ∧
      Sql.Corresponds st.sql st.placedValues (settings.map settingSource ++ members) := by
  obtain ⟨-, settings, members, hsettings, hmembers, rfl⟩ := statement_eq_ok.1 h
  refine ⟨settings, members, hsettings, hmembers, ?_⟩
  have hsetting : ∀ setting ∈ settings, Sql.Laid setting.1 [settingSource setting] := by
    intro setting hs
    obtain ⟨entry, -, hentry⟩ := exists_of_forall₂ hsettings.flip hs
    exact laid_setting hentry
  have htable : Sql.Laid ("UPDATE " ++ update.table) [] :=
    .fixed ((Sql.Paired.plain plain).after (by decide))
  have hset : Sql.Laid ("SET " ++ ", ".intercalate (settings.map Prod.fst))
      (settings.map settingSource) :=
    Sql.Laid.after (by decide) (.list .comma hsetting)
  have hlines := Sql.Laid.ofLines
    (.cons htable (.cons hset (.cons (laid_whereLine hmembers) .nil)))
  have hvalues : (settings.map settingSource ++ members).flatMap Fragment.values =
      settings.map Prod.snd ++ members.flatMap Fragment.values := by
    rw [List.flatMap_append, List.flatMap_map]
    exact congrArg (· ++ _) List.map_eq_flatMap.symm
  have hsources : [[], settings.map settingSource, members].flatten =
      settings.map settingSource ++ members := by simp
  rw [hsources] at hlines
  dsimp only
  rw [← hvalues]
  exact hlines.corresponds

end Update

namespace Insert

/-- The cells of rows come in as many pieces as there are rows, each with a cell for every
column. -/
theorem exists_pieces {rows : List Row} {columns : List String} {cells : List Scalar}
    (h : List.Forall₂ (fun place cell => place.1.cell place.2 = .ok cell)
      (rows.flatMap fun row => columns.map (row, ·)) cells) :
    ∃ pieces, List.Forall₂ (fun _ piece => piece.length = columns.length) rows pieces ∧
      pieces.flatten = cells := by
  induction rows generalizing cells with
  | nil => exact ⟨[], .nil, (List.forall₂_nil_left_iff.1 h).symm⟩
  | cons row rows ih =>
    rw [List.flatMap_cons, forall₂_append_left] at h
    obtain ⟨piece, hpiece, others, hothers, rfl⟩ := h
    obtain ⟨pieces, hpieces, rfl⟩ := ih hothers
    have hlength := hpiece.length_eq
    rw [List.length_map] at hlength
    exact ⟨piece :: pieces, .cons hlength.symm hpieces, rfl⟩

/-- The tuples of markers are put together from one marker for each cell. -/
theorem laid_valuesLine {rows : List Row} {columns : List String} {cells : List Scalar}
    (h : List.Forall₂ (fun place cell => place.1.cell place.2 = .ok cell)
      (rows.flatMap fun row => columns.map (row, ·)) cells) :
    Sql.Laid ("VALUES " ++ ", ".intercalate (List.replicate rows.length
      ("(" ++ Sql.markers columns.length ++ ")"))) (cells.map Sql.place) := by
  obtain ⟨pieces, hpieces, rfl⟩ := exists_pieces h
  have htuple : ∀ piece : List Scalar, piece.length = columns.length →
      Sql.Laid ("(" ++ Sql.markers columns.length ++ ")") (piece.map Sql.place) := by
    intro piece hlength
    rw [← hlength]
    exact (Sql.Laid.markers piece).parenthesized
  have htuples : List.Forall₂ Sql.Laid
      (rows.map fun _ => "(" ++ Sql.markers columns.length ++ ")")
      (pieces.map (·.map Sql.place)) := by
    rw [List.forall₂_map_left_iff, List.forall₂_map_right_iff]
    exact hpieces.imp fun _ piece hlength => htuple piece hlength
  rw [List.map_const'] at htuples
  rw [List.map_flatten]
  exact Sql.Laid.after (by decide) (.intercalate .comma htuples)

/-- The line for rows that are there already needs no values. -/
theorem paired_duplicateLine {insertType : InsertType} {columns : List String}
    (plain : ∀ column ∈ columns, Sql.Plain column) :
    Sql.Paired (insertType.duplicateLine columns) [] := by
  cases insertType with
  | insertNew | replace => exact .nil
  | insertOrUpdate =>
    refine Sql.Paired.after (by decide) (.intercalate .comma fun text ht => ?_)
    obtain ⟨column, hcolumn, rfl⟩ := List.mem_map.1 ht
    have hname := Sql.Paired.plain (plain column hcolumn)
    exact ((hname.before (by decide)).append hname).before (by decide)

/-- The markers of an insert stand for its cells, row by row. -/
theorem corresponds {insert : Insert} {st : Statement} (htable : Sql.Plain insert.table)
    (hcolumns : ∀ first ∈ insert.rows.head?, ∀ column ∈ first.columns, Sql.Plain column)
    (h : insert.statement = .ok st) : ∃ first cells, insert.rows.head? = some first ∧
      List.Forall₂ (fun place cell => place.1.cell place.2 = .ok cell)
        (insert.rows.flatMap fun row => first.columns.map (row, ·)) cells ∧
      Sql.Corresponds st.sql st.placedValues (cells.map Sql.place) := by
  obtain ⟨first, cells, hfirst, hcells, rfl⟩ := statement_eq_ok.1 h
  refine ⟨first, cells, hfirst, hcells, ?_⟩
  have hplain := hcolumns first hfirst
  have hkeyword : Sql.Paired insert.insertType.keyword [] := by
    cases insert.insertType <;> exact .plain (by decide)
  have hinto : Sql.Paired
      ("INTO " ++ insert.table ++ " (" ++ ", ".intercalate first.columns ++ ")") [] :=
    ((((Sql.Paired.plain htable).after (by decide)).before (by decide)).append
      (.intercalate .comma fun column hc => .plain (hplain column hc))).before
        (by decide)
  have hbefore : ∀ line ∈ [insert.insertType.keyword,
      "INTO " ++ insert.table ++ " (" ++ ", ".intercalate first.columns ++ ")"],
      Sql.Paired line [] :=
    List.forall_mem_cons.2 ⟨hkeyword, List.forall_mem_singleton.2 hinto⟩
  have hafter : ∀ line ∈ [insert.insertType.duplicateLine first.columns], Sql.Paired line [] :=
    List.forall_mem_singleton.2 (paired_duplicateLine hplain)
  have hlines := Sql.Laid.among hbefore (laid_valuesLine hcells) hafter
  have hcorresponds := hlines.corresponds
  rw [Sql.flatMap_values_place] at hcorresponds
  exact hcorresponds

end Insert

/-! ## All of them -/

end RowQuery
