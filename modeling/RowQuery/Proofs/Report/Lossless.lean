import Mathlib
import RowQuery.Proofs.Description.Faithful
import RowQuery.Proofs.Description.ReadBack
import RowQuery.Proofs.Json.Printer
import RowQuery.Report.Render

/-!
# Reports that lose nothing

The report of a statement tells it from every other one, as text and as JSON
(`Report.ofStatement_eq_iff`). As text its values stand behind its last line break, since no value
is written with one, so it does not matter what the SQL before them looks like.

The report of rows as text has a line for each row, and as JSON it is read as the rows. In both
forms it tells the rows from any others (`Report.rows_kept`).
-/

namespace RowQuery

/-! ## Statements -/

/-- Lists of scalars that JSON can write are written alike only when they are the same. -/
theorem Scalar.eq_of_map_toJson_eq {values values' : List Scalar} (h : ∀ v ∈ values, v.Finite)
    (h' : ∀ v ∈ values', v.Finite) (heq : values.map toJson = values'.map toJson) :
    values = values' := by
  have hread := mapM_ofJson?_toJson h
  rw [heq, mapM_ofJson?_toJson h'] at hread
  exact (Option.some.inj hread).symm

namespace Statement

/-- All values of a statement are values that JSON can write. -/
def Finite (s : Statement) : Prop := ∀ v ∈ s.placedValues, v.Finite

/-- The line of the values of a statement. -/
def valuesLine (s : Statement) : String := "-- placed values: " ++ s.valuesJson.compact

variable {p q : Statement}

/-- The line of the values has no line break. -/
theorem not_mem_valuesLine (s : Statement) : '\n' ∉ s.valuesLine.toList := by
  have hwords : '\n' ∉ "-- placed values: ".toList := by simp
  unfold valuesLine
  rw [String.toList_append, List.mem_append, not_or]
  exact ⟨hwords, s.valuesJson.not_mem_compact⟩

/-- A statement is its text and its values in JSON. -/
theorem eq_of_valuesJson_eq (hp : p.Finite) (hq : q.Finite) (hsql : p.sql = q.sql)
    (hvalues : p.valuesJson = q.valuesJson) : p = q := by
  have hplaced := Scalar.eq_of_map_toJson_eq hp hq (Json.array.inj hvalues)
  cases p
  cases q
  exact (Statement.mk.injEq ..).mpr ⟨hsql, hplaced⟩

end Statement

namespace Report

/-- As text, a statement stands before its values, which have the last line. -/
theorem toList_ofStatement_text (s : Statement) : (ofStatement s .text).toList =
    (s.sql.toList ++ '\n' :: s.valuesLine.toList) ++ ['\n'] := by
  have hwords : "\n-- placed values: ".toList = '\n' :: "-- placed values: ".toList := by simp
  unfold ofStatement Statement.valuesLine
  simp only [String.toList_append, hwords, List.append_assoc, List.cons_append]
  rfl

variable {p q : Statement} {format : OutputFormat}

/-- Statements with the same report as text are the same. -/
theorem eq_of_text_eq (hp : p.Finite) (hq : q.Finite)
    (h : ofStatement p .text = ofStatement q .text) : p = q := by
  have hlists := congrArg String.toList h
  rw [toList_ofStatement_text, toList_ofStatement_text] at hlists
  obtain ⟨hsql, hline⟩ := Text.eq_of_last_separator p.not_mem_valuesLine q.not_mem_valuesLine
    (List.append_cancel_right hlists)
  unfold Statement.valuesLine at hline
  rw [String.toList_append, String.toList_append] at hline
  have hcompact := String.toList_inj.1 (List.append_cancel_left hline)
  have hvalues := Json.eq_of_compact_eq hcompact
  exact Statement.eq_of_valuesJson_eq hp hq (String.toList_inj.1 hsql) hvalues

/-- Statements with the same report as JSON are the same. -/
theorem eq_of_json_eq (hp : p.Finite) (hq : q.Finite)
    (h : ofStatement p .json = ofStatement q .json) : p = q := by
  have hjson := Json.eq_of_indented_eq ((String.append_left_inj _).1 h)
  simp only [Statement.toJson, Json.object.injEq, List.cons.injEq, Prod.mk.injEq, true_and,
    and_true, Json.text.injEq] at hjson
  exact Statement.eq_of_valuesJson_eq hp hq hjson.1 hjson.2

/-- Reports of statements as text or as JSON are the same only for the same statement, with its
integers apart from its floating-point numbers, whatever its SQL and its texts look like. -/
theorem ofStatement_eq_iff (hp : p.Finite) (hq : q.Finite) (hformat : format ≠ .table) :
    ofStatement p format = ofStatement q format ↔ p = q := by
  refine ⟨fun h => ?_, fun h => h ▸ rfl⟩
  cases format with
  | text => exact eq_of_text_eq hp hq h
  | json => exact eq_of_json_eq hp hq h
  | table => exact absurd rfl hformat

/-- A statement whose SQL ends with a line that looks like the values of another one, and a value
with a line break and a quote. -/
theorem ofStatement_eq_iff_of_trailer :
    let p : Statement := ⟨"x\n-- placed values: [0]", [.text "\n\""]⟩
    let q : Statement := ⟨"x", [.int 0]⟩
    let r : Statement := ⟨"x", [.float (.zero false)]⟩
    p.Finite ∧ q.Finite ∧ r.Finite ∧ ofStatement p .text ≠ ofStatement q .text ∧
      ofStatement q .json ≠ ofStatement r .json := by
  intro p q r
  have hp : p.Finite := by simp [p, Statement.Finite, Scalar.Finite]
  have hq : q.Finite := by simp [q, Statement.Finite, Scalar.Finite]
  have hr : r.Finite := by
    have hzero : (Binary64.zero false).IsFinite := by decide
    simpa [r, Statement.Finite, Scalar.Finite] using hzero
  refine ⟨hp, hq, hr, ?_, ?_⟩
  · exact mt (ofStatement_eq_iff hp hq (by decide)).1 (by simp [p, q])
  · exact mt (ofStatement_eq_iff hq hr (by decide)).1 (by simp [q, r])

/-! ## Rows -/

variable {rows others : List Row}

/-- A row is its object. -/
theorem toJson_injective : Function.Injective Row.toJson := by
  rintro ⟨entries, _⟩ ⟨entries', _⟩ h
  cases Json.object.inj h
  rfl

/-- As text, every row has a line. -/
theorem toList_ofRows_text (rows : List Row) : (ofRows rows .text).toList =
    (rows.map fun row => row.toJson.compact.toList).flatMap (· ++ ['\n']) := by
  unfold ofRows
  rw [String.toList_join, List.flatMap_map, List.flatMap_map]
  simp only [String.toList_append]
  rfl

/-- The pieces of rows as text are their objects on one line each, and nothing behind the last. -/
theorem pieces_ofRows_text (rows : List Row) : Text.pieces (· == '\n') (ofRows rows .text).toList =
    (rows.map fun row => row.toJson.compact.toList) ++ [[]] := by
  rw [toList_ofRows_text]
  refine Text.pieces_lines (by decide) (List.forall_mem_map.2 fun row _ c hc => ?_)
  exact beq_eq_false_iff_ne.2 fun heq => row.toJson.not_mem_compact (heq ▸ hc)

/-- Rows with the same report as text or as JSON are the same. -/
theorem eq_of_ofRows_eq (hformat : format ≠ .table)
    (h : ofRows rows format = ofRows others format) : rows = others := by
  cases format with
  | text =>
    have hpieces := pieces_ofRows_text rows
    rw [h, pieces_ofRows_text] at hpieces
    refine (List.map_injective_iff.2 (fun r r' hr => ?_) (List.append_cancel_right hpieces)).symm
    exact toJson_injective (Json.eq_of_compact_eq (String.toList_inj.1 hr))
  | json =>
    have hjson := Json.eq_of_indented_eq ((String.append_left_inj _).1 h)
    exact List.map_injective_iff.2 toJson_injective (Json.array.inj hjson)
  | table => exact absurd rfl hformat

/-- Rows that are not nested too deep and repeat no keys are read from their report as JSON. -/
theorem ofText_ofRows (hnesting : (Json.array (rows.map Row.toJson)).nesting ≤ Document.maxNesting)
    (hkeys : ∀ row ∈ rows, row.toJson.DistinctKeys) :
    Decoder.ofText .rows (ofRows rows .json) = .ok rows := by
  have hdistinct : (Json.array (rows.map Row.toJson)).DistinctKeys :=
    Json.itemsDistinct_iff.2 (List.forall_mem_map.2 hkeys)
  have hdenotes := Json.denotes_indented (.array (rows.map Row.toJson)) Json.Grammar.spaces_break
  refine (Decoder.Faithful.rows.ofText_eq_ok hdenotes hnesting hdistinct rows).2 ?_
  rw [Json.collapse_of_distinctKeys hdistinct]
  exact Decoder.ofValue_list_map fun row hrow => Decoder.ofValue_row (hkeys row hrow)

/-- A row that is decoded repeats no keys, in its cells neither. -/
theorem distinctKeys_of_row {d : Document} {row : Row} (h : Decoder.row d = .ok row) :
    row.toJson.DistinctKeys := by
  cases d with
  | object tooDeep fields stop =>
    obtain ⟨-, -, h⟩ := bind_eq_ok.1 h
    obtain ⟨fields, -, h⟩ := bind_eq_ok.1 h
    obtain ⟨-, -, h⟩ := bind_eq_ok.1 h
    cases h
    exact (Json.object fields).distinctKeys_collapse
  | nothing | word | number | string | array => cases h

/-- Rows that are decoded repeat no keys. -/
theorem distinctKeys_of_rows {d : Document} (h : Decoder.rows d = .ok rows) :
    ∀ row ∈ rows, row.toJson.DistinctKeys := by
  cases d with
  | array tooDeep items stop =>
    obtain ⟨-, -, h⟩ := bind_eq_ok.1 h
    obtain ⟨decoded, hdecoded, h⟩ := bind_eq_ok.1 h
    obtain ⟨-, -, h⟩ := bind_eq_ok.1 h
    cases h
    intro row hrow
    obtain ⟨item, -, hitem⟩ := exists_of_forall₂ (mapM_eq_ok.1 hdecoded).flip hrow
    exact distinctKeys_of_row hitem
  | nothing | word | number | string | object => cases h

/-- What the reports of rows keep. -/
structure RowsKept (rows : List Row) : Prop where
  /-- The report as text has a line break for each row. -/
  breaks : (ofRows rows .text).toList.count '\n' = rows.length
  /-- Its lines are the objects of the rows, in order, and nothing stands behind the last. -/
  lines : Text.piecesAt '\n' (ofRows rows .text) = rows.map (·.toJson.compact) ++ [""]
  /-- No other rows have the same report, as text or as JSON: rows, columns and cells are kept, in
  order. -/
  unique : ∀ others format, format ≠ .table → ofRows rows format = ofRows others format →
    rows = others
  /-- The report as JSON is read as the rows, if a reader may enter all of it and no object in a
  cell repeats a key. -/
  read : (Json.array (rows.map Row.toJson)).nesting ≤ Document.maxNesting →
    (∀ row ∈ rows, row.toJson.DistinctKeys) → Decoder.ofText .rows (ofRows rows .json) = .ok rows
  /-- No object in a cell of rows that were read themselves does. -/
  readAgain : ∀ d, Decoder.rows d = .ok rows →
    (Json.array (rows.map Row.toJson)).nesting ≤ Document.maxNesting →
    Decoder.ofText .rows (ofRows rows .json) = .ok rows

/-- The reports of rows as text and as JSON keep the rows. -/
theorem rows_kept (rows : List Row) : RowsKept rows where
  breaks := by
    have hlength := Text.length_pieces (· == '\n') (ofRows rows .text).toList
    rw [pieces_ofRows_text, List.length_append, List.length_map] at hlength
    exact (Nat.succ.inj hlength).symm
  lines := by
    rw [Text.piecesAt, pieces_ofRows_text, List.map_append, List.map_map]
    refine congrArg₂ _ (List.map_congr_left fun row _ => String.ofList_toList) rfl
  unique others format hformat h := eq_of_ofRows_eq hformat h
  read hnesting hkeys := ofText_ofRows hnesting hkeys
  readAgain d hd hnesting := ofText_ofRows hnesting (distinctKeys_of_rows hd)

/-- A row with line breaks in a column and deep in a cell, with the greatest integer of 64 bits and
a negative zero, twice in one report; and a row that differs from it in the kind of a number. -/
theorem rows_kept_of_line_breaks :
    let zero : Json := .number (.float (.zero true) (by decide))
    let greatest : Json := .number (.int 18446744073709551615 (by decide))
    let row : Row := ⟨[("b\n", .array [.object [("\n", greatest)], zero]),
      ("a", .text "\"\n")], by decide⟩
    let other : Row := ⟨[("b\n", .array [.object [("\n", greatest)], .number (.int 0 (by decide))]),
      ("a", .text "\"\n")], by decide⟩
    (ofRows [row, row] .text).toList.count '\n' = 2 ∧
      Text.piecesAt '\n' (ofRows [row, row] .text) =
        [row.toJson.compact, row.toJson.compact, ""] ∧
      ofRows [row] .text ≠ ofRows [other] .text ∧ ofRows [row] .json ≠ ofRows [other] .json ∧
      Decoder.ofText .rows (ofRows [row, row] .json) = .ok [row, row] := by
  intro zero greatest row other
  have hother : [row] ≠ [other] := by simp [row, other, zero]
  have hkeys : ∀ r ∈ [row, row], r.toJson.DistinctKeys := by
    simp [row, zero, greatest, Row.toJson, Json.DistinctKeys, Json.FieldsDistinct,
      Json.ItemsDistinct]
  refine ⟨(rows_kept [row, row]).breaks, (rows_kept [row, row]).lines, ?_, ?_, ?_⟩
  · exact mt ((rows_kept [row]).unique [other] .text (by decide)) hother
  · exact mt ((rows_kept [row]).unique [other] .json (by decide)) hother
  · exact (rows_kept [row, row]).read (by decide) hkeys

end Report

end RowQuery
