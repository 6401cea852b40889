import Mathlib
import RowQuery.Proofs.Description.ReadBack
import RowQuery.Proofs.Json.Fields

/-!
# Scalars in conditions and in cells

A scalar of a condition is that of the first form that takes its value, a cell is read by what its
value is. Both read the same scalars and refuse the same values (`Json.readAlike`), although
integers above the signed range are numbers of another form than those below. A row that is made of
columns and scalars has each column in the place where it was first given, and in its cell what it
was last given, but for numbers that JSON cannot write (`Row.keeps_ofScalars`). So what a condition
compares with is read from a value as the cell of that value is (`scalars_read_alike_and_kept`).
-/

namespace RowQuery

/-! ## Reading -/

/-- The decoders of conditions and the cells of rows take the same scalar from a value, or refuse it
both. -/
structure Json.ReadAlike (v : Json) : Prop where
  /-- A scalar is decoded when a cell is read, and is the same. -/
  scalar : ∀ x, Decoder.ofValue .scalar v = .ok x ↔ Scalar.ofJson v = .ok x
  /-- So is the one value that an operand is. -/
  operand : ∀ x, Decoder.ofValue .operand v = .ok (.single x) ↔ Scalar.ofJson v = .ok x
  /-- What has parts is refused on both ways. -/
  refused : Decoder.ofValue .scalar v = .error (.noForm "Scalar") ↔
    ∃ kind, Scalar.ofJson v = .error kind
  /-- An integer above the signed range is the same floating-point number on both ways. -/
  large : ∀ i inRange, v = .number (.int i inRange) → 9223372036854775808 ≤ i →
    Decoder.ofValue .scalar v = .ok (.float (.ofInt i)) ∧ Scalar.ofJson v = .ok (.float (.ofInt i))

namespace Decoder

/-- A value of several forms is decoded as its form is, or has none. -/
theorem ofValue_formOf_eq {α : Type} (type : String) (form? : Json → Option α) (v : Json) :
    ofValue (formOf type form?) v = (form? v).elim (.error (.noForm type)) .ok := by
  cases hform : form? v with
  | some a => exact ofValue_formOf hform
  | none =>
    have hvalue : value (Document.ofJson v) = .ok v := mapError_eq_ok.2 (Document.strict_ofJson v)
    rw [ofValue, formOf, hvalue]
    simp only [bind, Except.bind, hform]
    rfl

/-- A scalar is decoded as a cell is read. -/
theorem ofValue_scalar (v : Json) :
    ofValue scalar v = (Scalar.ofJson v).mapError fun _ => .noForm "Scalar" := by
  rw [scalar, ofValue_formOf_eq, Scalar.ofJson?_eq_toOption]
  cases Scalar.ofJson v <;> rfl

/-- An operand that is no list is decoded as a cell is read. -/
theorem ofValue_operand_eq_single {v : Json} {x : Scalar} :
    ofValue operand v = .ok (.single x) ↔ Scalar.ofJson v = .ok x := by
  have hoperand : ofValue operand v = .ok (.single x) ↔ Operand.ofJson? v = some (.single x) := by
    rw [operand, ofValue_formOf_eq]
    cases Operand.ofJson? v <;> simp
  have hscalar : Scalar.ofJson v = .ok x ↔ Scalar.ofJson? v = some x := by
    rw [Scalar.ofJson?_eq_toOption]
    cases Scalar.ofJson v <;> simp [Except.toOption]
  rw [hoperand, hscalar]
  cases v with
  | array items =>
    have hlist : Scalar.ofJson? (.array items) = none := rfl
    simp [Operand.ofJson?, hlist]
  | null | bool | number | text | object => simp [Operand.ofJson?]

end Decoder

/-- Conditions and rows read the same scalars. -/
theorem Json.readAlike (v : Json) : v.ReadAlike where
  scalar x := by rw [Decoder.ofValue_scalar, mapError_eq_ok]
  operand _ := Decoder.ofValue_operand_eq_single
  refused := by
    rw [Decoder.ofValue_scalar]
    cases Scalar.ofJson v <;> simp [Except.mapError]
  large i inRange hv hlarge := by
    have hcell : Scalar.ofJson v = .ok (.float (.ofInt i)) := by
      rw [hv, Scalar.ofJson, Scalar.ofNumber, if_neg (Int.not_lt.2 hlarge)]
    exact ⟨by rw [Decoder.ofValue_scalar, hcell]; rfl, hcell⟩

/-! ## Keeping -/

/-- What is left of a scalar in a cell: of a number that JSON cannot write, null. -/
def Scalar.kept : Scalar → Scalar
  | .float x => if x.IsFinite then .float x else .null
  | v => v

/-- A scalar that is written into a cell is read as what is left of it. -/
theorem Scalar.ofJson_toJson_eq_kept (v : Scalar) : Scalar.ofJson v.toJson = .ok v.kept := by
  cases v with
  | float x =>
    by_cases h : x.IsFinite
    · rw [ofJson_toJson (v := .float x) h, kept, if_pos h]
    · rw [toJson, dif_neg h, kept, if_neg h]
      rfl
  | null | bool | int | text => exact ofJson_toJson trivial

namespace Row

variable {row : Row} {pairs : List (String × Scalar)}

/-- The row has what the columns and scalars give. -/
structure Keeps (pairs : List (String × Scalar)) (row : Row) : Prop where
  /-- The columns are those that are given, each once, in the order of first mention. -/
  columns_eq : row.columns = (pairs.map Prod.fst).eraseDups
  /-- A cell is what is left of the last scalar that is given for its column. -/
  cell_eq : ∀ before column x after, pairs = before ++ (column, x) :: after →
    column ∉ after.map Prod.fst → row.cell column = .ok x.kept
  /-- A column that is not given is missing. -/
  missing : ∀ column, column ∉ pairs.map Prod.fst → row.cell column = .error (.missingField column)

/-- A row that is made of columns and scalars has what they give. -/
theorem keeps_ofScalars (pairs : List (String × Scalar)) : (ofScalars pairs).Keeps pairs where
  columns_eq := by
    rw [columns, ofScalars, ofFields, keys_lastOfEach, List.map_map]
    rfl
  cell_eq before column x after hpairs hafter := by
    have hcell : (ofScalars pairs).get? column = some x.toJson := by
      rw [hpairs, get?, ofScalars, ofFields, List.map_append, List.map_cons]
      exact field?_lastOfEach _ column x.toJson (by rwa [List.map_map])
    rw [cell, hcell]
    exact mapError_eq_ok.2 x.ofJson_toJson_eq_kept
  missing column hcolumn := by
    have hcell : (ofScalars pairs).get? column = none := by
      rw [get?, ofScalars, ofFields, field?_eq_none, keys_lastOfEach, List.map_map]
      exact mt List.mem_eraseDups.1 hcolumn
    rw [cell, hcell]

end Row

/-- Conditions and rows read the same scalars from values, and rows keep the scalars that they are
made of. -/
theorem scalars_read_alike_and_kept (v : Json) (pairs : List (String × Scalar)) :
    v.ReadAlike ∧ (Row.ofScalars pairs).Keeps pairs :=
  ⟨v.readAlike, Row.keeps_ofScalars pairs⟩

/-- The greatest integer of 64 bits is read as a floating-point number on both ways, and a column
that is given again keeps its place and what it is given last, of not-a-number null. -/
theorem scalars_read_alike_and_kept_of_large :
    let v : Json := .number (.int 18446744073709551615 (by decide))
    let pairs := [("b", Scalar.int 1), ("a", .text "x"), ("b", .float .nan)]
    let row := Row.ofScalars pairs
    Decoder.ofValue .scalar v = .ok (.float (.ofInt 18446744073709551615)) ∧
      Scalar.ofJson v = .ok (.float (.ofInt 18446744073709551615)) ∧
      row.columns = ["b", "a"] ∧ row.cell "b" = .ok .null ∧
      row.cell "c" = .error (.missingField "c") := by
  intro v pairs row
  obtain ⟨hread, hkeeps⟩ := scalars_read_alike_and_kept v pairs
  obtain ⟨hscalar, hcell⟩ := hread.large _ _ rfl (by decide)
  refine ⟨hscalar, hcell, hkeeps.columns_eq.trans (by decide), ?_, hkeeps.missing "c" (by decide)⟩
  exact hkeeps.cell_eq [("b", .int 1), ("a", .text "x")] "b" (.float .nan) [] rfl (by decide)

end RowQuery
