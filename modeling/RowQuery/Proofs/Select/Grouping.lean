import Mathlib
import RowQuery.Proofs.Json.Printer
import RowQuery.Proofs.Scalar.Order
import RowQuery.Proofs.Select.Reference

/-!
# Groups of equal values

Rows are grouped by the texts of their cells, and cells are written alike only when they are the
same (`Row.sameCells_of_sameTexts`). But values that are sorted as equal need not be written
alike: an integer and a floating-point number are not, nor are a Boolean and a number, nor the two
zeros. So an answer merges the rows of equal values (`Select.MergesEqual`) exactly when the rows that
match and have equal values hold the same cells (`Select.mergesEqual_iff`).
-/

namespace RowQuery

/-! ## Rows in some columns -/

namespace Row

variable {columns : List String} {row row' row'' : Row}

/-- All cells in the columns are there and are scalars. -/
def HasScalars (columns : List String) (row : Row) : Prop :=
  ∀ c ∈ columns, ∃ v a, row.get? c = some v ∧ Scalar.ofJson v = .ok a

/-- Rows whose cells in the columns are scalars that are sorted as equal. -/
def SameValues (columns : List String) (row row' : Row) : Prop :=
  ∀ c ∈ columns, ∃ a b, row.cell c = .ok a ∧ row'.cell c = .ok b ∧ a.sortCompare b = .eq

/-- Rows that hold the same in the columns. -/
def SameCells (columns : List String) (row row' : Row) : Prop :=
  ∀ c ∈ columns, row.get? c = row'.get? c

/-- A cell that is a scalar is read as the scalar. -/
theorem cell_eq_ok {c : String} {v : Json} {a : Scalar} (hv : row.get? c = some v)
    (ha : Scalar.ofJson v = .ok a) : row.cell c = .ok a := by
  rw [cell, hv]
  exact mapError_eq_ok.2 ha

/-- Equality of values is symmetric. -/
theorem SameValues.symm (h : SameValues columns row row') : SameValues columns row' row := by
  intro c hc
  obtain ⟨a, b, ha, hb, heq⟩ := h c hc
  exact ⟨b, a, hb, ha, Std.OrientedCmp.eq_symm heq⟩

/-- Equality of values is transitive. -/
theorem SameValues.trans (h : SameValues columns row row') (h' : SameValues columns row' row'') :
    SameValues columns row row'' := by
  intro c hc
  obtain ⟨a, b, ha, hb, heq⟩ := h c hc
  obtain ⟨b', d, hb', hd, heq'⟩ := h' c hc
  obtain rfl : b = b' := Except.ok.inj (hb.symm.trans hb')
  exact ⟨a, d, ha, hd, Std.TransCmp.eq_trans heq heq'⟩

/-- The same cells have the same texts. -/
theorem SameCells.sameTexts (h : SameCells columns row row') : SameTexts columns row row' :=
  fun c hc => congrArg (Option.map Json.compact) (h c hc)

/-- The same scalars have equal values. -/
theorem SameCells.sameValues (h : SameCells columns row row') (hrow : row.HasScalars columns) :
    SameValues columns row row' := by
  intro c hc
  obtain ⟨v, a, hv, ha⟩ := hrow c hc
  exact ⟨a, a, cell_eq_ok hv ha, cell_eq_ok (h c hc ▸ hv) ha, Std.ReflCmp.compare_self⟩

/-- Cells with the same texts are the same. -/
theorem sameCells_of_sameTexts (h : SameTexts columns row row') : SameCells columns row row' :=
  fun c hc => Option.map_injective (fun _ _ => Json.eq_of_compact_eq) (h c hc)

end Row

namespace Select

variable {s : Select} {rows out : List Row}

/-! ## Places -/

/-- A place whose row matches leads, or a place before it does whose row has the same texts. -/
theorem exists_leads (i : Fin rows.length) (hi : s.Matches rows i) :
    ∃ j ≤ i, s.Leads rows j ∧ Row.SameTexts s.groupBy (rows.get j) (rows.get i) := by
  induction i using WellFoundedLT.induction with
  | ind i ih =>
    by_cases hleads : s.Leads rows i
    · exact ⟨i, le_refl i, hleads, fun _ _ => rfl⟩
    · rw [Leads, not_and] at hleads
      have hearlier := hleads hi
      push Not at hearlier
      obtain ⟨-, j, hlt, hj, hsame⟩ := hearlier
      obtain ⟨k, hle, hk, hsame'⟩ := ih j hlt hj
      exact ⟨k, hle.trans hlt.le, hk, fun c hc => (hsame' c hc).trans (hsame c hc)⟩

/-- No two places lead whose rows have the same texts. -/
theorem eq_of_leads {i j : Fin rows.length} (hgroup : s.groupBy ≠ []) (hi : s.Leads rows i)
    (hj : s.Leads rows j) (h : Row.SameTexts s.groupBy (rows.get i) (rows.get j)) : i = j := by
  rcases lt_trichotomy i j with hlt | heq | hgt
  · exact absurd h (hj.2 hgroup i hlt hi.1)
  · exact heq
  · exact absurd (fun c hc => (h c hc).symm) (hi.2 hgroup j hgt hj.1)

/-- Where grouping has a result, the cells in its columns are there. -/
theorem isSome_of_grouped {columns : List String} {firsts : List Row} (hcolumns : columns ≠ [])
    (h : grouped columns rows = .ok firsts) : ∀ row ∈ rows, ∀ c ∈ columns, (row.get? c).isSome := by
  rw [grouped, if_neg (by simpa using hcolumns)] at h
  obtain ⟨keyed, hkeyed, -⟩ := bind_eq_ok.1 h
  intro row hrow c hc
  obtain ⟨-, hkeys⟩ := mapM_pair_eq_ok (fun _ _ h => (groupKey_eq_ok h).1) hkeyed
  exact (groupKey_eq_ok (hkeys row hrow)).2 c hc

/-- Where a select has an answer, the rows that match hold the columns they are grouped by. -/
theorem isSome_of_answer (hgroup : s.groupBy ≠ []) (h : s.answer rows = .ok out)
    (i : Fin rows.length) (hi : s.Matches rows i) :
    ∀ c ∈ s.groupBy, ((rows.get i).get? c).isSome := by
  obtain ⟨-, kept, hkept, firsts, hfirsts, -⟩ := answer_eq_ok.1 h
  obtain ⟨matching, rfl, -, hmatching⟩ := kept_places hkept
  exact isSome_of_grouped hgroup hfirsts _ (List.mem_map_of_mem ((hmatching i).2 hi))

/-- The answer without a window and a choice of fields are the rows at the places that lead. -/
theorem exists_places (hskip : s.skip? = none) (hlimit : s.limit? = none) (hfields : s.fields = [])
    (h : s.answer rows = .ok out) : ∃ places : List (Fin rows.length), out = places.map rows.get ∧
      places.Nodup ∧ ∀ i, i ∈ places ↔ s.Leads rows i := by
  obtain ⟨places, hleads, hprecedes, hshown⟩ := reference_of_answer h
  refine ⟨places, ?_, nodup_of_precedes hprecedes, hleads⟩
  have hall : (places.drop (s.skip?.getD 0).toNat).take
      ((s.limit?.map UInt64.toNat).getD places.length) = places := by
    rw [hskip, hlimit]
    exact List.take_of_length_le (List.drop_sublist _ _).length_le
  rw [hall] at hshown
  have hrows : List.Forall₂ (fun i shown => rows.get i = shown) places out :=
    hshown.imp fun i shown h => by
      rw [Row.Shows, if_pos hfields] at h
      exact h.symm
  exact (List.forall₂_eq_eq_eq ▸ List.forall₂_map_left_iff.2 hrows : places.map rows.get = out).symm

/-! ## Merging -/

/-- No two rows of the answer have equal values in the grouping columns, and every row that matches
has equal values with one row of the answer, which is the earliest row that matches and has equal
values. -/
structure MergesEqual (s : Select) (rows out : List Row) : Prop where
  /-- The rows of the answer have different values. -/
  apart : out.Pairwise fun row row' => ¬ Row.SameValues s.groupBy row row'
  /-- Every row that matches has the values of one row of the answer. -/
  found : ∀ i, s.Matches rows i → ∃ k : Fin out.length,
    Row.SameValues s.groupBy (out.get k) (rows.get i) ∧
    (∀ k', Row.SameValues s.groupBy (out.get k') (rows.get i) → k' = k) ∧
    ∃ j, out.get k = rows.get j ∧ s.Matches rows j ∧
      ∀ j' < j, s.Matches rows j' → ¬ Row.SameValues s.groupBy (rows.get j') (rows.get i)

/-- Places whose rows match and have equal values hold the same cells. -/
def EqualAlike (s : Select) (rows : List Row) : Prop :=
  ∀ i j, s.Matches rows i → s.Matches rows j →
    Row.SameValues s.groupBy (rows.get i) (rows.get j) →
    Row.SameCells s.groupBy (rows.get i) (rows.get j)

section

variable {places : List (Fin rows.length)}

/-- A place whose row matches has the cells, hence the values, of a place that leads. -/
theorem exists_leader (hcells : ∀ i, s.Matches rows i → (rows.get i).HasScalars s.groupBy)
    (i : Fin rows.length) (hi : s.Matches rows i) : ∃ j, s.Leads rows j ∧
      Row.SameCells s.groupBy (rows.get j) (rows.get i) ∧
      Row.SameValues s.groupBy (rows.get j) (rows.get i) := by
  obtain ⟨j, -, hj, htexts⟩ := exists_leads i hi
  have hsame := Row.sameCells_of_sameTexts htexts
  exact ⟨j, hj, hsame, hsame.sameValues (hcells j hj.1)⟩

/-- Where the places that lead have different values, equal values are the same cells: both places
have the leader of their values. -/
theorem equalAlike_of_apart (hcells : ∀ i, s.Matches rows i → (rows.get i).HasScalars s.groupBy)
    (hleads : ∀ i, i ∈ places ↔ s.Leads rows i)
    (hapart : (places.map rows.get).Pairwise fun row row' => ¬ Row.SameValues s.groupBy row row') :
    s.EqualAlike rows := by
  intro i j hi hj hsame
  obtain ⟨i', hi', hcellsI, hvaluesI⟩ := exists_leader hcells i hi
  obtain ⟨j', hj', hcellsJ, hvaluesJ⟩ := exists_leader hcells j hj
  have heq : i' = j' := by
    by_contra hne
    have hsymm : Std.Symm fun i j => ¬ Row.SameValues s.groupBy (rows.get i) (rows.get j) :=
      ⟨fun _ _ h h' => h h'.symm⟩
    have hdiffer := (List.pairwise_map.1 hapart).forall ((hleads i').2 hi') ((hleads j').2 hj') hne
    exact hdiffer ((hvaluesI.trans hsame).trans hvaluesJ.symm)
  subst heq
  exact fun c hc => (hcellsI c hc).symm.trans (hcellsJ c hc)

/-- Where equal values are the same cells, the places that lead have different values. -/
theorem apart_of_equalAlike (hgroup : s.groupBy ≠ []) (hnodup : places.Nodup)
    (hleads : ∀ i, i ∈ places ↔ s.Leads rows i) (halike : s.EqualAlike rows) :
    (places.map rows.get).Pairwise fun row row' => ¬ Row.SameValues s.groupBy row row' := by
  refine List.pairwise_map.2 (hnodup.imp_of_mem fun {i j} hi hj hne hsame => hne ?_)
  rw [hleads] at hi hj
  exact eq_of_leads hgroup hi hj (halike i j hi.1 hj.1 hsame).sameTexts

/-- Of rows of different values, at most one has the values of a row. -/
theorem eq_of_sameValues {row : Row}
    (hapart : out.Pairwise fun row row' => ¬ Row.SameValues s.groupBy row row')
    {k k' : Fin out.length} (hk : Row.SameValues s.groupBy (out.get k) row)
    (hk' : Row.SameValues s.groupBy (out.get k') row) : k' = k := by
  have hsame := hk'.trans hk.symm
  rcases lt_trichotomy k' k with hlt | heq | hgt
  · exact absurd hsame (List.pairwise_iff_get.1 hapart k' k hlt)
  · exact heq
  · exact absurd hsame.symm (List.pairwise_iff_get.1 hapart k k' hgt)

/-- The rows at the places that lead merge the rows of equal values where those are the same cells. -/
theorem mergesEqual_of_equalAlike (hgroup : s.groupBy ≠ [])
    (hcells : ∀ i, s.Matches rows i → (rows.get i).HasScalars s.groupBy) (hnodup : places.Nodup)
    (hleads : ∀ i, i ∈ places ↔ s.Leads rows i) (halike : s.EqualAlike rows) :
    s.MergesEqual rows (places.map rows.get) := by
  have hapart := apart_of_equalAlike hgroup hnodup hleads halike
  refine ⟨hapart, fun i hi => ?_⟩
  obtain ⟨j, hj, -, hvalues⟩ := exists_leader hcells i hi
  obtain ⟨k, hk⟩ := List.mem_iff_get.1 (List.mem_map_of_mem (f := rows.get) ((hleads j).2 hj))
  have hfound := hk ▸ hvalues
  refine ⟨k, hfound, fun k' hk' => eq_of_sameValues hapart hfound hk', j, hk, hj.1,
    fun j' hlt hj' hsame => ?_⟩
  have hcellsJ := halike j' j hj' hj.1 (hsame.trans hvalues.symm)
  exact hj.2 hgroup j' hlt hj' hcellsJ.sameTexts

end

/-- An answer in groups merges the rows of equal values exactly when those that match and have equal
values hold the same cells. -/
theorem mergesEqual_iff (hgroup : s.groupBy ≠ []) (hskip : s.skip? = none) (hlimit : s.limit? = none)
    (hfields : s.fields = [])
    (hscalars : ∀ row ∈ rows, ∀ c ∈ s.groupBy, ∀ v, row.get? c = some v →
      ∃ a, Scalar.ofJson v = .ok a)
    (h : s.answer rows = .ok out) : s.MergesEqual rows out ↔
      ∀ i j, s.Matches rows i → s.Matches rows j →
        Row.SameValues s.groupBy (rows.get i) (rows.get j) →
        Row.SameCells s.groupBy (rows.get i) (rows.get j) := by
  have hcells (i : Fin rows.length) (hi : s.Matches rows i) : (rows.get i).HasScalars s.groupBy := by
    intro c hc
    obtain ⟨v, hv⟩ := Option.isSome_iff_exists.1 (isSome_of_answer hgroup h i hi c hc)
    obtain ⟨a, ha⟩ := hscalars _ (rows.get_mem i) c hc v hv
    exact ⟨v, a, hv, ha⟩
  obtain ⟨places, rfl, hnodup, hleads⟩ := exists_places hskip hlimit hfields h
  exact ⟨fun hmerges => equalAlike_of_apart hcells hleads hmerges.apart,
    fun halike => mergesEqual_of_equalAlike hgroup hcells hnodup hleads halike⟩

/-- Two rows that hold the same in the grouping column are merged into the first of them. -/
theorem mergesEqual_of_same_cells :
    let row (b : String) := Row.ofScalars [("a", .int 1), ("b", .text b)]
    ({ table := "t", groupBy := ["a"] } : Select).MergesEqual [row "x", row "y"] [row "x"] := by
  intro row
  have hsame : ∀ r ∈ [row "x", row "y"], r.get? "a" = some (.number (.int 1 (by decide))) := by
    simp only [List.forall_mem_cons]
    exact ⟨rfl, rfl, List.forall_mem_nil _⟩
  refine (mergesEqual_iff (List.cons_ne_nil _ _) rfl rfl rfl (fun r hr c hc v hv => ?_) (by cbv)).2
    fun i j _ _ _ c hc => ?_
  · obtain rfl := List.mem_singleton.1 hc
    obtain rfl := Option.some.inj ((hsame r hr).symm.trans hv)
    exact ⟨_, rfl⟩
  · obtain rfl := List.mem_singleton.1 hc
    exact (hsame _ (List.get_mem _ i)).trans (hsame _ (List.get_mem _ j)).symm

/-- An integer and a floating-point number of one value are sorted as equal, but the rows that hold
them are both in the answer. -/
theorem equal_numbers_not_merged :
    let s : Select := { table := "t", groupBy := ["a"] }
    let rows := [Row.ofScalars [("a", .int 0)], .ofScalars [("a", .float (.ofFields false 0 0))]]
    s.answer rows = .ok rows ∧ ¬ s.MergesEqual rows rows := by
  intro s rows
  have hanswer : s.answer rows = .ok rows := by cbv
  refine ⟨hanswer, fun hmerges => ?_⟩
  have hapart := (List.pairwise_cons.1 hmerges.apart).1 _ List.mem_cons_self
  refine hapart fun c hc => ?_
  obtain rfl := List.mem_singleton.1 hc
  exact ⟨.int 0, .float (.ofFields false 0 0), rfl, rfl, by decide +kernel⟩

end Select

end RowQuery
