import RowQuery.Proofs.Json.Fields
import RowQuery.Proofs.Steps
import RowQuery.Select.Answer

/-!
# The fields an answer shows

`Row.Shows fields row shown` says which row an answer shows for a row: the row itself when no fields
are asked for, and else the fields asked for, in the order of first mention and with the cells of
the row. There is one such row (`Row.Shows.unique`), and projection finds it (`Row.project_shows`).
-/

namespace RowQuery

namespace Row

/-! ## Rows by their cells -/

/-- A row is its columns with their cells. -/
theorem map_columns_get? (row : Row) :
    row.columns.map (fun c => (c, row.get? c)) = row.entries.map fun e => (e.1, some e.2) := by
  rw [columns, List.map_map]
  refine List.map_congr_left fun e he => Prod.ext rfl ?_
  exact (field?_eq_some row.nodup_columns).2 he

/-- Rows with the same columns and cells are equal. -/
theorem ext_get? {row row' : Row} (hcolumns : row.columns = row'.columns)
    (h : ∀ c ∈ row.columns, row.get? c = row'.get? c) : row = row' := by
  have hentries : row.entries = row'.entries := by
    have hinjective : Function.Injective fun e : String × Json => (e.1, some e.2) := by
      rintro ⟨k, v⟩ ⟨k', v'⟩ he
      cases he
      rfl
    refine hinjective.list_map ?_
    rw [← map_columns_get?, ← map_columns_get?, ← hcolumns]
    exact List.map_congr_left fun c hc => Prod.ext rfl (h c hc)
  cases row
  cases hentries
  rfl

/-! ## Projections -/

/-- What an answer shows of a row: all of it when no fields are asked for, and else the fields asked
for, each once and in the order of first mention, with the cells of the row. -/
def Shows (fields : List String) (row shown : Row) : Prop :=
  if fields = [] then shown = row
  else shown.columns = fields.eraseDups ∧ ∀ f ∈ fields, shown.get? f = row.get? f

/-- An answer shows one row for a row. -/
theorem Shows.unique {fields : List String} {row shown shown' : Row}
    (h : Shows fields row shown) (h' : Shows fields row shown') : shown = shown' := by
  unfold Shows at h h'
  split at h
  · next hfields =>
    rw [if_pos hfields] at h'
    rw [h, h']
  · next hfields =>
    rw [if_neg hfields] at h'
    refine ext_get? (h.1.trans h'.1.symm) fun c hc => ?_
    have hmem : c ∈ fields := List.mem_eraseDups.1 (h.1 ▸ hc)
    rw [h.2 c hmem, h'.2 c hmem]

/-- Projection finds the row that is shown. -/
theorem project_shows {fields : List String} {row shown : Row}
    (h : row.project fields = .ok shown) : Shows fields row shown := by
  unfold project at h
  unfold Shows
  by_cases hempty : fields = []
  · rw [if_pos hempty]
    rw [if_pos (List.isEmpty_iff.2 hempty)] at h
    cases h
    rfl
  rw [if_neg hempty]
  rw [if_neg (by simpa using hempty)] at h
  obtain ⟨cells, hcells, h⟩ := bind_eq_ok.1 h
  cases h
  let value (f : String) : Json := (row.get? f).getD .null
  obtain ⟨rfl, hsteps⟩ := mapM_eq_map (g := fun f => (f, value f)) hcells fun f cell hcell => by
    split at hcell
    · next v hv =>
      cases hcell
      rw [show value f = (row.get? f).getD .null from rfl, hv]
      rfl
    · cases hcell
  have hentries : (ofFields (fields.map fun f => (f, value f))).entries =
      fields.eraseDups.map fun f => (f, value f) := lastOfEach_map fields value
  constructor
  · rw [columns, hentries, List.map_map]
    exact List.map_id _
  · intro f hf
    have hmem : (f, value f) ∈ fields.eraseDups.map fun f => (f, value f) :=
      List.mem_map_of_mem (List.mem_eraseDups.2 hf)
    rw [← hentries] at hmem
    have hstep := hsteps f hf
    split at hstep
    · next v hv =>
      have hcell : v = value f := (Prod.mk.inj (Except.ok.inj hstep)).2
      rw [hv, hcell]
      exact (field?_eq_some (ofFields _).nodup_columns).2 hmem
    · cases hstep

end Row

end RowQuery
