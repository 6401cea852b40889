import Mathlib.Data.List.Basic
import RowQuery.Proofs.Json.Fields
import RowQuery.Proofs.Steps
import RowQuery.Report.Render

/-!
# The columns of a table of rows

The rows of a table need not have the same columns. Their columns are gathered from one row to the
next by `unseen`, which keeps a column where it is first mentioned, so that no column has two heads
and none is left out. Under the heads every row has one cell for each, found by its name and empty
where the row has no such column. `Tabulates` says so of rows and any table; it holds of the table
that is reported, and of no other (`Report.rows_tabulated`).
-/

namespace RowQuery.Report

variable {seen mentioned : List String} {rows : List Row} {row : Row} {column : String}
  {table : Table}

/-! ## Columns in order of first mention -/

/-- A column that has been seen is left out. -/
theorem unseen_cons_of_mem (h : column ∈ seen) :
    unseen seen (column :: mentioned) = unseen seen mentioned := by
  simp [unseen, h]

/-- A column that has not been seen is kept, and has been seen from then on. -/
theorem unseen_cons_of_not_mem (h : column ∉ seen) :
    unseen seen (column :: mentioned) = column :: unseen (column :: seen) mentioned := by
  simp [unseen, h]

/-- The columns that are kept are those that are mentioned and have not been seen. -/
theorem mem_unseen : column ∈ unseen seen mentioned ↔ column ∈ mentioned ∧ column ∉ seen := by
  induction mentioned generalizing seen with
  | nil => simp [unseen]
  | cons first rest ih =>
    by_cases hseen : first ∈ seen
    · rw [unseen_cons_of_mem hseen, ih, List.mem_cons]
      have hne (h : column ∉ seen) : column ≠ first := fun he => h (he ▸ hseen)
      exact ⟨fun h => ⟨.inr h.1, h.2⟩, fun h => ⟨h.1.resolve_left (hne h.2), h.2⟩⟩
    · rw [unseen_cons_of_not_mem hseen, List.mem_cons, ih, List.mem_cons]
      by_cases hcolumn : column = first
      · simp [hcolumn, hseen]
      · simp [hcolumn]

/-- They are kept in the order in which they are first mentioned. -/
theorem pairwise_unseen : (unseen seen mentioned).Pairwise fun a b =>
    mentioned.idxOf a < mentioned.idxOf b := by
  induction mentioned generalizing seen with
  | nil => exact .nil
  | cons first rest ih =>
    -- once the first column has been seen, what is kept is not it and stands one place further
    have hplace {seen : List String} (hfirst : first ∈ seen) {a : String}
        (ha : a ∈ unseen seen rest) : (first :: rest).idxOf a = rest.idxOf a + 1 :=
      List.idxOf_cons_ne rest fun he => (mem_unseen.1 ha).2 (he ▸ hfirst)
    have hrest {seen : List String} (hfirst : first ∈ seen) : (unseen seen rest).Pairwise
        fun a b => (first :: rest).idxOf a < (first :: rest).idxOf b :=
      ih.imp_of_mem fun ha hb hlt => by
        rw [hplace hfirst ha, hplace hfirst hb]
        exact Nat.succ_lt_succ hlt
    by_cases hseen : first ∈ seen
    · rw [unseen_cons_of_mem hseen]
      exact hrest hseen
    · rw [unseen_cons_of_not_mem hseen, List.pairwise_cons]
      refine ⟨fun column hcolumn => ?_, hrest List.mem_cons_self⟩
      rw [List.idxOf_cons_self, hplace List.mem_cons_self hcolumn]
      exact Nat.succ_pos _

/-- The columns of a table are those of its rows. -/
theorem mem_rowColumns : column ∈ rowColumns rows ↔ ∃ row ∈ rows, column ∈ row.columns := by
  rw [rowColumns, mem_unseen, List.mem_flatMap]
  exact and_iff_left List.not_mem_nil

/-! ## Cells -/

/-- A text shows what a row has in a column. -/
inductive ShowsCell (row : Row) (column : String) : String → Prop
  /-- Of a column that the row does not have, nothing. -/
  | missing (h : column ∉ row.columns) : ShowsCell row column ""
  | scalar {value : Json} {x : Scalar} (h : (column, value) ∈ row.entries)
      (hx : Scalar.ofJson value = .ok x) : ShowsCell row column x.display
  | array {items : List Json} (h : (column, .array items) ∈ row.entries) :
      ShowsCell row column (Json.array items).compact
  | object {fields : List (String × Json)} (h : (column, .object fields) ∈ row.entries) :
      ShowsCell row column (Json.object fields).compact

/-- The text of a cell shows it. -/
theorem showsCell_get? (row : Row) (column : String) :
    ShowsCell row column ((row.get? column).elim "" cellText) := by
  cases hcell : row.get? column with
  | none => exact .missing (field?_eq_none.1 hcell)
  | some value =>
    have hmem : (column, value) ∈ row.entries := mem_of_field? hcell
    cases value with
    | array items => exact .array hmem
    | object fields => exact .object hmem
    | null | bool | number | text => exact .scalar hmem rfl

/-- No other text shows it. -/
theorem ShowsCell.eq_get? {text : String} (h : ShowsCell row column text) :
    text = (row.get? column).elim "" cellText := by
  have hget {value : Json} (hmem : (column, value) ∈ row.entries) : row.get? column = some value :=
    (field?_eq_some row.nodup_columns).2 hmem
  cases h with
  | missing h => rw [Row.get?, field?_eq_none.2 h, Option.elim_none]
  | scalar h hx => rw [hget h, Option.elim_some, cellText, hx]
  | array h | object h =>
    rw [hget h]
    rfl

/-- The cells of a row are the texts that show what it has in each of the columns. -/
theorem forall₂_rowCells {columns cells : List String} :
    List.Forall₂ (ShowsCell row) columns cells ↔ cells = rowCells columns row := by
  constructor
  · intro h
    rw [rowCells, ← List.forall₂_eq_eq_eq, List.forall₂_map_right_iff]
    exact h.flip.imp fun _ _ hcell => hcell.eq_get?
  · rintro rfl
    exact List.forall₂_map_right_iff.2 (List.forall₂_same.2 fun column _ => showsCell_get? row column)

/-! ## Tables -/

/-- A table shows every cell of some rows under its column. -/
structure Tabulates (rows : List Row) (table : Table) : Prop where
  /-- No column has two heads. -/
  heads_nodup : table.header.Nodup
  /-- The heads are the columns that any of the rows has. -/
  mem_heads_iff : ∀ column, column ∈ table.header ↔ ∃ row ∈ rows, column ∈ row.columns
  /-- They stand in the order in which the columns are first mentioned, from the first row on. -/
  heads_ordered : table.header.Pairwise fun a b =>
    (rows.flatMap Row.columns).idxOf a < (rows.flatMap Row.columns).idxOf b
  /-- Every row has one cell for each head, and that shows what the row has in the column. -/
  cells : List.Forall₂ (fun row cells => List.Forall₂ (ShowsCell row) table.header cells)
    rows table.rows

/-- The table of rows shows their cells. -/
theorem tabulates_rowTable (rows : List Row) : Tabulates rows (rowTable rows) where
  heads_nodup := pairwise_unseen.imp fun hlt he => absurd (he ▸ hlt) (Nat.lt_irrefl _)
  mem_heads_iff _ := mem_rowColumns
  heads_ordered := pairwise_unseen
  cells := List.forall₂_map_right_iff.2 (List.forall₂_same.2 fun _ _ => forall₂_rowCells.2 rfl)

/-- No other table does. -/
theorem Tabulates.eq_rowTable (h : Tabulates rows table) : table = rowTable rows := by
  have h' := tabulates_rowTable rows
  have hperm : table.header.Perm (rowTable rows).header :=
    (List.perm_ext_iff_of_nodup h.heads_nodup h'.heads_nodup).2 fun column => by
      rw [h.mem_heads_iff, h'.mem_heads_iff]
  have hheader : table.header = rowColumns rows := hperm.eq_of_pairwise
    (fun _ _ _ _ hlt hgt => absurd hgt (Nat.lt_asymm hlt)) h.heads_ordered h'.heads_ordered
  have hcells := h.cells
  rw [hheader] at hcells
  have hrows : table.rows = rows.map (rowCells (rowColumns rows)) := by
    rw [← List.forall₂_eq_eq_eq, List.forall₂_map_right_iff]
    exact hcells.flip.imp fun _ _ hrow => forall₂_rowCells.1 hrow
  cases table
  exact congrArg₂ Table.mk hheader hrows

/-- The report of rows as a table draws the one table that shows every cell under its column, and
counts the rows below it. -/
theorem rows_tabulated (h : rows ≠ []) :
    ofRows rows .table = (rowTable rows).render ++ "\n(" ++ toString rows.length ++ " rows)\n" ∧
      ∀ table, Tabulates rows table ↔ table = rowTable rows := by
  refine ⟨?_, fun table => ⟨Tabulates.eq_rowTable, ?_⟩⟩
  · unfold ofRows
    exact if_neg (mt List.isEmpty_iff.1 h)
  · rintro rfl
    exact tabulates_rowTable rows

/-- Two rows with one column in common and in another place, a cell with parts, and a number above
the signed range. -/
theorem rows_tabulated_of_unlike_rows :
    let first := Row.ofFields [("b", .number (.int 18446744073709551615 (by decide))), ("a", .null)]
    let second := Row.ofFields [("c", .array [.text "x", .array []]), ("a", .text "y")]
    let table : Table :=
      ⟨["b", "a", "c"], [["18446744073709552000", "NULL", ""], ["", "y", "[\"x\",[]]"]]⟩
    [first, second] ≠ [] ∧ Tabulates [first, second] table ∧
      ofRows [first, second] .table = table.render ++ "\n(" ++ toString 2 ++ " rows)\n" := by
  intro first second table
  have hrows : [first, second] ≠ [] := List.cons_ne_nil _ _
  have hheader : rowColumns [first, second] = table.header := by decide
  have hcells : (rowTable [first, second]).rows = table.rows := by decide +kernel
  have htable : table = rowTable [first, second] :=
    (congrArg₂ Table.mk hheader hcells).symm
  obtain ⟨hreport, hunique⟩ := rows_tabulated hrows
  exact ⟨hrows, (hunique table).2 htable, htable ▸ hreport⟩

end RowQuery.Report
