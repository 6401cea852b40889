import RowQuery.Error

/-!
# Rows

A `Row` is a record of cells by column, in the order in which the columns were first given. A column
has one cell: giving it again keeps its place and replaces what it holds. `Row.cell` reads a cell as
a scalar.
-/

namespace RowQuery

/-! ## Fields by key -/

theorem mem_keys_insertField {α : Type} {key k : String} {value : α} {fields : List (String × α)} :
    k ∈ (Json.insertField key value fields).map Prod.fst ↔ k = key ∨ k ∈ fields.map Prod.fst := by
  induction fields with
  | nil => simp [Json.insertField]
  | cons field rest ih =>
    unfold Json.insertField
    by_cases h : field.1 = key
    · simp only [h, if_true, List.map_cons, List.mem_cons]
      exact ⟨fun hk => hk.elim .inl fun hk => .inr (.inr hk), fun hk => hk.elim .inl id⟩
    · simp only [h, if_false, List.map_cons, List.mem_cons, ih]
      exact or_left_comm

theorem nodup_keys_insertField {α : Type} {key : String} {value : α} {fields : List (String × α)}
    (h : (fields.map Prod.fst).Nodup) :
    ((Json.insertField key value fields).map Prod.fst).Nodup := by
  induction fields with
  | nil => simp [Json.insertField]
  | cons field rest ih =>
    rw [List.map_cons, List.nodup_cons] at h
    unfold Json.insertField
    by_cases hk : field.1 = key
    · simpa only [hk, if_true, List.map_cons, List.nodup_cons] using hk ▸ h
    · simp only [hk, if_false, List.map_cons, List.nodup_cons]
      exact ⟨fun hm => (mem_keys_insertField.1 hm).elim hk h.1, ih h.2⟩

/-- Every list of fields has one entry per key once only the last of each is kept. -/
theorem nodup_keys_lastOfEach {α : Type} (fields : List (String × α)) :
    ((Json.lastOfEach fields).map Prod.fst).Nodup := by
  have step (l acc : List (String × α)) : (acc.map Prod.fst).Nodup →
      ((l.foldl (fun acc field => Json.insertField field.1 field.2 acc) acc).map
        Prod.fst).Nodup := by
    revert acc
    induction l with
    | nil => exact fun _ h => h
    | cons field rest ih => exact fun acc h => ih _ (nodup_keys_insertField h)
  exact step fields [] List.nodup_nil

/-! ## Rows -/

/-- A record of cells by column. -/
structure Row where
  /-- The columns and their cells, in order. -/
  entries : List (String × Json)
  /-- No column occurs twice. -/
  nodup_columns : (entries.map Prod.fst).Nodup

namespace Row

/-- The row of a list of columns and cells, of which a column keeps its first place and its last
cell. -/
def ofFields (fields : List (String × Json)) : Row :=
  ⟨Json.lastOfEach fields, nodup_keys_lastOfEach fields⟩

/-- The row of a list of columns and scalars. -/
def ofScalars (pairs : List (String × Scalar)) : Row :=
  ofFields (pairs.map fun pair => (pair.1, pair.2.toJson))

/-- The columns, in order. -/
def columns (row : Row) : List String := row.entries.map Prod.fst

/-- The cell of a column. -/
def get? (row : Row) (column : String) : Option Json := Json.field? column row.entries

/-- The row as a JSON object. -/
def toJson (row : Row) : Json := .object row.entries

/-- The scalar in the cell of a column. -/
def cell (row : Row) (column : String) : Except QueryError Scalar :=
  match row.get? column with
  | none => .error (.missingField column)
  | some value => (Scalar.ofJson value).mapError (.nonScalarValue column)

end Row

end RowQuery
