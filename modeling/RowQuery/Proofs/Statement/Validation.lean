import Mathlib
import RowQuery.Proofs.Json.Fields
import RowQuery.Proofs.Statement.Lines

/-!
# Which rows are inserted

The rows of an insert are accepted when each of them has a scalar in each column of the first row.
Their cells then stand row after row, those of a row in the order of these columns, and otherwise the
first cell in this order that is not there or has parts is reported (`Insert.validation_exact`).
`insertCells` reads one row; what holds of it carries over to all rows by induction on them, where the
position of the first one is general, since each row is reported under its own.

What a row has in other columns is not looked at, and the order of its columns does not matter
(`Row.ExtendedBeyond`).
-/

namespace RowQuery

variable {columns : List String} {rows rows' later later' : List Row} {first row row' : Row}
  {position : Nat} {column : String} {cells : List Scalar}

/-! ## Places in lists -/

/-- What is found first stands at the first place at which something is found. -/
theorem findSome?_eq_some_iff_getElem? {α β : Type} {f : α → Option β} {l : List α} {b : β} :
    l.findSome? f = some b ↔ ∃ (i : Nat) (a : α), l[i]? = some a ∧ f a = some b ∧
      ∀ (j : Nat) (a' : α), l[j]? = some a' → j < i → f a' = none := by
  rw [List.findSome?_eq_some_iff]
  constructor
  · rintro ⟨before, a, after, rfl, ha, hbefore⟩
    refine ⟨before.length, a, by simp, ha, fun j a' ha' hj => hbefore a' ?_⟩
    rw [List.getElem?_append_left hj] at ha'
    exact List.mem_of_getElem? ha'
  · rintro ⟨i, a, hi, ha, hbefore⟩
    obtain ⟨hlt, rfl⟩ := List.getElem?_eq_some_iff.1 hi
    refine ⟨l.take i, l[i], l.drop (i + 1), by simp, ha, fun a' ha' => ?_⟩
    obtain ⟨j, hj⟩ := List.mem_iff_getElem?.1 ha'
    rw [List.getElem?_take] at hj
    split at hj
    · next hji => exact hbefore j a' hj hji
    · cases hj

namespace Insert

/-! ## The cells of accepted rows -/

/-- Which rows are accepted. -/
theorem exists_allCells_iff : (∃ cells, allCells columns position rows = .ok cells) ↔
    ∀ row ∈ rows, ∀ column ∈ columns, ∃ cell, row.cell column = .ok cell := by
  simp only [allCells_eq_ok, exists_forall₂_iff, List.forall_mem_flatMap, List.forall_mem_map]

/-- The cells of a row stand behind those of the rows before it, in the order of the columns. -/
theorem allCells_place (h : allCells columns position rows = .ok cells) :
    cells.length = rows.length * columns.length ∧ ∀ r c row column, rows[r]? = some row →
      columns[c]? = some column →
      ∃ cell, cells[r * columns.length + c]? = some cell ∧ row.cell column = .ok cell := by
  induction rows generalizing position cells with
  | nil =>
    cases h
    exact ⟨(Nat.zero_mul _).symm, fun r c row column hr => by cases hr⟩
  | cons first rest ih =>
    obtain ⟨own, hown, h⟩ := bind_eq_ok.1 h
    obtain ⟨others, hothers, h⟩ := bind_eq_ok.1 h
    cases h
    have hcells := insertCells_eq_ok.1 hown
    have hwidth : columns.length = own.length := hcells.length_eq
    obtain ⟨hlength, hrest⟩ := ih hothers
    refine ⟨?_, fun r c row column hr hc => ?_⟩
    · rw [List.length_append, List.length_cons, Nat.succ_mul, hlength, hwidth, Nat.add_comm]
    · cases r with
      | zero =>
        cases hr
        obtain ⟨cell, hcell, hread⟩ := exists_getElem?_of_forall₂ hcells hc
        have hc' : c < own.length := (List.getElem?_eq_some_iff.1 hcell).1
        refine ⟨cell, ?_, hread⟩
        rwa [Nat.zero_mul, Nat.zero_add, List.getElem?_append_left hc']
      | succ r =>
        obtain ⟨cell, hcell, hread⟩ := hrest r c row column hr hc
        refine ⟨cell, ?_, hread⟩
        rw [← hcell, Nat.succ_mul, Nat.add_right_comm, List.getElem?_append_right (by omega)]
        congr 1
        omega

/-! ## The first cell that is refused -/

/-- What is wrong with the cell in a column of the row at a position. -/
def insertFault? (position : Nat) (row : Row) (column : String) : Option QueryError :=
  match row.get? column with
  | none => some (.missingInsertColumn position column)
  | some (.array _) => some (.nonPrimitiveValue position column .array)
  | some (.object _) => some (.nonPrimitiveValue position column .object)
  | some .null | some (.bool _) | some (.number _) | some (.text _) => none

/-- Of one row, the first cell that is refused is reported. -/
theorem reports_insertCells :
    Reports (insertCells position row columns) (columns.findSome? (insertFault? position row)) := by
  refine Reports.mapM fun column _ => ?_
  unfold insertFault?
  cases row.get? column with
  | none => exact .error _
  | some value =>
    cases value with
    | array _ | object _ => exact .error _
    | null | bool _ | number _ | text _ => exact .ok _

/-- Of all rows, the first cell that is refused in the first row with such a cell is reported. -/
theorem reports_allCells : Reports (allCells columns position rows)
    ((rows.zipIdx position).findSome? fun place => columns.findSome? (insertFault? place.2 place.1)) := by
  induction rows generalizing position with
  | nil => exact .ok []
  | cons row rest ih =>
    rw [allCells, List.zipIdx_cons, findSome?_cons_eq_or]
    exact reports_insertCells.seq fun own _ => ih.bind fun others _ => ⟨own ++ others, rfl⟩

/-- Something is wrong with the cell of the row at `r` in the column at `c`. -/
def FaultAt (columns : List String) (rows : List Row) (r c : Nat) (e : QueryError) : Prop :=
  ∃ row column, rows[r]? = some row ∧ columns[c]? = some column ∧ insertFault? r row column = some e

/-- What is reported is what is wrong with the first cell that is refused, row after row. -/
theorem allCells_eq_error {e : QueryError} : allCells columns 0 rows = .error e ↔
    ∃ r c, FaultAt columns rows r c e ∧
      ∀ r' c' e', FaultAt columns rows r' c' e' → r < r' ∨ r = r' ∧ c ≤ c' := by
  rw [reports_allCells e, findSome?_eq_some_iff_getElem?]
  simp only [List.getElem?_zipIdx, Nat.zero_add, Option.map_eq_some_iff]
  constructor
  · rintro ⟨r, _, ⟨row, hr, rfl⟩, hfound, hrows⟩
    obtain ⟨c, column, hc, hfault, hcolumns⟩ := findSome?_eq_some_iff_getElem?.1 hfound
    refine ⟨r, c, ⟨row, column, hr, hc, hfault⟩, ?_⟩
    rintro r' c' e' ⟨row', column', hr', hc', hfault'⟩
    rcases Nat.lt_trichotomy r r' with hlt | rfl | hlt
    · exact .inl hlt
    · refine .inr ⟨rfl, Nat.le_of_not_lt fun hlt => ?_⟩
      cases hr.symm.trans hr'
      rw [hcolumns c' column' hc' hlt] at hfault'
      cases hfault'
    · have hnone := hrows r' _ ⟨row', hr', rfl⟩ hlt
      rw [List.findSome?_eq_none_iff.1 hnone column' (List.mem_of_getElem? hc')] at hfault'
      cases hfault'
  · rintro ⟨r, c, ⟨row, column, hr, hc, hfault⟩, hfirst⟩
    refine ⟨r, _, ⟨row, hr, rfl⟩, findSome?_eq_some_iff_getElem?.2 ⟨c, column, hc, hfault, ?_⟩, ?_⟩
    · intro c' column' hc' hlt
      refine Option.eq_none_iff_forall_ne_some.2 fun e' hfault' => ?_
      have hle := hfirst r c' e' ⟨row, column', hr, hc', hfault'⟩
      omega
    · rintro r' _ ⟨row', hr', rfl⟩ hlt
      refine List.findSome?_eq_none_iff.2 fun column' hmem => ?_
      obtain ⟨c', hc'⟩ := List.mem_iff_getElem?.1 hmem
      refine Option.eq_none_iff_forall_ne_some.2 fun e' hfault' => ?_
      have hle := hfirst r' c' e' ⟨row', column', hr', hc', hfault'⟩
      omega

end Insert

/-! ## Cells that are not looked at -/

namespace Row

/-- A row has the entries of another one, in any order, and others in columns beyond the given ones. -/
def ExtendedBeyond (columns : List String) (row row' : Row) : Prop :=
  ∃ extra, row'.entries.Perm (row.entries ++ extra) ∧ ∀ column ∈ columns, column ∉ extra.map Prod.fst

/-- In the given columns such rows have the same cells. -/
theorem ExtendedBeyond.get?_eq (h : row.ExtendedBeyond columns row') (hcolumn : column ∈ columns) :
    row'.get? column = row.get? column := by
  obtain ⟨extra, hperm, hbeyond⟩ := h
  refine Option.ext fun value => ?_
  have hextra : (column, value) ∉ extra := fun hmem =>
    hbeyond column hcolumn (List.mem_map_of_mem hmem)
  rw [get?, get?, field?_eq_some row'.nodup_columns, field?_eq_some row.nodup_columns,
    hperm.mem_iff, List.mem_append, or_iff_left hextra]

/-- Where a row has the given columns, what it does not have is beyond them. -/
theorem extendedBeyond_of_cells (hcells : ∀ column ∈ columns, ∃ cell, row.cell column = .ok cell)
    {extra : List (String × Json)} (hperm : row'.entries.Perm (row.entries ++ extra)) :
    row.ExtendedBeyond columns row' := by
  refine ⟨extra, hperm, fun column hcolumn hextra => ?_⟩
  have hnodup := row'.nodup_columns
  rw [(hperm.map Prod.fst).nodup_iff, List.map_append, List.nodup_append] at hnodup
  refine hnodup.2.2 column ?_ column hextra rfl
  -- a column that the row did not have would not have had a cell
  by_contra hnone
  obtain ⟨cell, hcell⟩ := hcells column hcolumn
  rw [Row.cell, get?, field?_eq_none.2 hnone] at hcell
  cases hcell

end Row

namespace Insert

/-- Cells beyond the columns, and the order of what a row has, do not matter to what is read. -/
theorem allCells_congr (h : List.Forall₂ (Row.ExtendedBeyond columns) rows rows') :
    allCells columns position rows' = allCells columns position rows := by
  induction h generalizing position with
  | nil => rfl
  | cons hrow _ ih =>
    rw [allCells, allCells, ih]
    congr 1
    exact mapM_congr fun column hcolumn => by rw [hrow.get?_eq hcolumn]

/-- They do not matter to what is accepted either, as long as the first row stays. -/
theorem validateRows_congr (h : List.Forall₂ (Row.ExtendedBeyond first.columns) later later') :
    validateRows (first :: later') = validateRows (first :: later) := by
  unfold validateRows
  dsimp only
  rw [allCells, allCells, allCells_congr h]

/-- Rows that are read alike are inserted by the same statement. -/
theorem statement_congr {table : String} {rows rows' : List Row} {insertType : InsertType}
    (hlength : rows'.length = rows.length) (h : validateRows rows' = validateRows rows) :
    (Insert.mk table rows' insertType).statement = (Insert.mk table rows insertType).statement := by
  unfold statement
  dsimp only
  rw [hlength, h]

/-! ## The result -/

/-- What is read from a first row and the rows behind it. -/
structure ValidatesExactly (first : Row) (later : List Row) : Prop where
  /-- The rows are accepted when each has a scalar in each column of the first one. -/
  accepted_iff : (∃ columns cells, validateRows (first :: later) = .ok (columns, cells)) ↔
    ∀ row ∈ first :: later, ∀ column ∈ first.columns, ∃ cell, row.cell column = .ok cell
  /-- Then the cells are those of the rows in these columns, row after row. -/
  cells : ∀ columns cells, validateRows (first :: later) = .ok (columns, cells) →
    columns = first.columns ∧ cells.length = (first :: later).length * columns.length ∧
      ∀ r c row column, (first :: later)[r]? = some row → columns[c]? = some column →
        ∃ cell, cells[r * columns.length + c]? = some cell ∧ row.cell column = .ok cell
  /-- And otherwise the first cell that is refused is reported, row after row. -/
  error_iff : ∀ e, validateRows (first :: later) = .error e ↔
    ∃ r c, FaultAt first.columns (first :: later) r c e ∧
      ∀ r' c' e', FaultAt first.columns (first :: later) r' c' e' → r < r' ∨ r = r' ∧ c ≤ c'
  /-- Neither the order of what later rows have nor what they have in other columns matters. -/
  extended : ∀ later', List.Forall₂ (Row.ExtendedBeyond first.columns) later later' →
    ∀ table insertType, (Insert.mk table (first :: later') insertType).statement =
      (Insert.mk table (first :: later) insertType).statement
  /-- Once the rows are accepted, nothing that later rows are given besides matters. -/
  accepted_extended : (∃ columns cells, validateRows (first :: later) = .ok (columns, cells)) →
    ∀ later', List.Forall₂ (fun row row' => ∃ extra, row'.entries.Perm (row.entries ++ extra))
      later later' → ∀ table insertType, (Insert.mk table (first :: later') insertType).statement =
        (Insert.mk table (first :: later) insertType).statement

/-- The rows of an insert are validated exactly. -/
theorem validation_exact (first : Row) (later : List Row) : ValidatesExactly first later := by
  have haccepted : (∃ columns cells, validateRows (first :: later) = .ok (columns, cells)) ↔
      ∀ row ∈ first :: later, ∀ column ∈ first.columns, ∃ cell, row.cell column = .ok cell := by
    rw [← @exists_allCells_iff first.columns (first :: later) 0]
    simp [validateRows, map_eq_ok]
  have hextended : ∀ later', List.Forall₂ (Row.ExtendedBeyond first.columns) later later' →
      ∀ table insertType, (Insert.mk table (first :: later') insertType).statement =
        (Insert.mk table (first :: later) insertType).statement := fun later' h _ _ =>
    statement_congr (congrArg Nat.succ h.length_eq.symm) (validateRows_congr h)
  refine ⟨haccepted, fun columns cells h => ?_, fun e => ?_, hextended, fun h later' hlater => ?_⟩
  · obtain ⟨_, hcells, hpair⟩ := map_eq_ok.1 h
    cases hpair
    exact ⟨rfl, allCells_place hcells⟩
  · rw [← allCells_eq_error]
    show (allCells first.columns 0 (first :: later)).map _ = _ ↔ _
    cases allCells first.columns 0 (first :: later) <;> simp [Except.map]
  · refine hextended later' (forall₂_imp_of_mem hlater fun row hrow row' _ hextra => ?_)
    obtain ⟨extra, hperm⟩ := hextra
    exact Row.extendedBeyond_of_cells (haccepted.1 h row (List.mem_cons_of_mem _ hrow)) hperm

/-- The rows of a replacement whose second row has its columns in another order and one more are
replaced as if it had not, and the cells of the second row stand behind those of the first. -/
theorem validation_exact_of_unordered_row :
    let first := Row.ofFields [("a", .text "x"), ("b", .null)]
    let second := Row.ofFields [("b", .bool true), ("a", .text "y")]
    let second' := Row.ofFields [("c", .array []), ("a", .text "y"), ("b", .bool true)]
    let cells : List Scalar := [.text "x", .null, .text "y", .bool true]
    validateRows [first, second] = .ok (["a", "b"], cells) ∧
      (∃ cell, cells[1 * 2 + 1]? = some cell ∧ second.cell "b" = .ok cell) ∧
      (Insert.mk "t" [first, second'] .replace).statement =
        (Insert.mk "t" [first, second] .replace).statement := by
  intro first second second' cells
  have h : validateRows [first, second] = .ok (["a", "b"], cells) := by cbv
  have hentries : second'.entries = (second.entries ++ [("c", Json.array [])]).reverse := by cbv
  have hextra : second'.entries.Perm (second.entries ++ [("c", .array [])]) :=
    hentries ▸ List.reverse_perm _
  exact ⟨h, ((validation_exact first [second]).cells _ _ h).2.2 1 1 second "b" rfl rfl,
    (validation_exact first [second]).accepted_extended ⟨_, _, h⟩ [second']
      (.cons ⟨_, hextra⟩ .nil) "t" .replace⟩

/-- Of two cells that are refused, the one in the first row of them is reported. -/
example : validateRows [.ofFields [("a", .null), ("b", .null)], .ofFields [("a", .array [])],
    .ofFields [("b", .null)]] = .error (.nonPrimitiveValue 1 "a" .array) := by cbv

end Insert

end RowQuery
