import Mathlib
import RowQuery.Proofs.Condition.Fault
import RowQuery.Proofs.Select.Reference

/-!
# What a select fails with

A select is answered in phases, and each phase can fail on a row: on one that the filter cannot be
decided on, one without a column to group by (`Row.lack?`), one without a scalar to sort by
(`Row.unsortable?`), one without a field that is asked for. `Select.FailsWith` says with what a
select fails: with the fault of the first row, in the order of the phase, in the first phase that
has a row at fault. The rows of a phase are those at the places that the phases before it leave.

`Select.first_fault_reported` says that the answer fails with this and nothing else. Rows that are
dropped before a phase, or that lie outside of the window, are not looked at.
-/

namespace RowQuery

/-! ## Rows at fault -/

namespace Row

variable {columns : List String} {row : Row}

/-- What is wrong with a row that has to hold columns: that it lacks one, the first in the list. -/
def lack? (columns : List String) (row : Row) : Option QueryError :=
  columns.findSome? fun c => if (row.get? c).isSome then none else some (.missingField c)

/-- What is wrong with a cell that has to be a scalar: that it is not there, or what else it is. -/
def notScalar? (row : Row) (c : String) : Option QueryError :=
  match row.get? c with
  | none => some (.missingField c)
  | some (.array _) => some (.nonScalarValue c .array)
  | some (.object _) => some (.nonScalarValue c .object)
  | some _ => none

/-- What is wrong with a row that has to be sorted: that it has no scalar in the column of a key,
the first in the list. -/
def unsortable? (keys : List OrderKey) (row : Row) : Option QueryError :=
  keys.findSome? fun key => row.notScalar? key.column

/-- Reading a cell finds what is wrong with it. -/
theorem reports_cell (c : String) : Reports (row.cell c) (row.notScalar? c) := by
  unfold cell notScalar?
  cases row.get? c with
  | none => exact .error _
  | some v => cases v <;> first | exact .ok _ | exact .error _

/-- The key of a row finds the first column that the row lacks. -/
theorem reports_groupKey (row : Row) : Reports (row.groupKey columns) (row.lack? columns) := by
  refine .mapM fun c _ => ?_
  cases row.get? c with
  | none => exact .error _
  | some v => exact .ok _

/-- The cells to sort by find the first column without a scalar. -/
theorem reports_orderCells (keys : List OrderKey) (row : Row) :
    Reports (row.orderCells keys) (row.unsortable? keys) :=
  .mapM fun key _ => reports_cell key.column

/-- Projection finds the first field that the row lacks. -/
theorem reports_project (fields : List String) (row : Row) :
    Reports (row.project fields) (row.lack? fields) := by
  unfold project
  split
  · next hempty =>
    rw [List.isEmpty_iff.1 hempty]
    exact .ok row
  · refine Reports.bind (.mapM fun field _ => ?_) fun _ _ => ⟨_, rfl⟩
    cases row.get? field with
    | none => exact .error _
    | some v => exact .ok _

end Row

namespace Select

/-- Why the filter cannot be decided on a row, if there is one and it cannot. -/
def undecided? (filter? : Option Condition) (row : Row) : Option QueryError :=
  filter?.bind fun c => failure? (c.holds row)

/-- Keeping a row or not fails when the filter cannot be decided on it. -/
theorem failure?_keeps (filter? : Option Condition) (row : Row) :
    failure? (Condition.keeps filter? row) = undecided? filter? row := by
  cases filter? <;> rfl

/-! ## Phases at fault -/

variable {s : Select} {rows : List Row} {e : QueryError}

/-- Filtering fails on the first row that the filter cannot be decided on. -/
theorem reports_filtered (filter? : Option Condition) (rows : List Row) :
    Reports (filtered filter? rows) (rows.findSome? (undecided? filter?)) := by
  induction rows with
  | nil => exact .ok []
  | cons row rows ih =>
    rw [filtered, List.findSome?_cons, ← failure?_keeps]
    cases Condition.keeps filter? row with
    | error e => exact .error e
    | ok keep => exact ih.bind fun _ _ => ⟨_, rfl⟩

/-- A phase that reads a key of every row, if it has names to read by, fails on the first row whose
key cannot be read. -/
theorem reports_keyed {κ ν : Type} {names : List ν} {key : Row → Except QueryError κ}
    {fault? : Row → Option QueryError} (hnil : names = [] → ∀ row, fault? row = none)
    (hkey : ∀ row, Reports (key row) (fault? row)) (finish : List (κ × Row) → List Row)
    (rows : List Row) :
    Reports (if names.isEmpty then .ok rows else do
      let keyed ← rows.mapM fun row => (key row).map (·, row)
      return finish keyed) (rows.findSome? fault?) := by
  split
  · next hempty =>
    rw [List.findSome?_eq_none_iff.2 fun row _ => hnil (List.isEmpty_iff.1 hempty) row]
    exact .ok rows
  · exact (Reports.mapM fun row _ => (hkey row).map (·, row)).bind fun _ _ => ⟨_, rfl⟩

/-- Grouping fails on the first row that lacks a column. -/
theorem reports_grouped (columns : List String) (rows : List Row) :
    Reports (grouped columns rows) (rows.findSome? (Row.lack? columns)) :=
  reports_keyed (fun hnil row => by rw [hnil]; rfl) Row.reports_groupKey _ rows

/-- Sorting fails on the first row without a scalar to sort by. -/
theorem reports_sorted (keys : List OrderKey) (rows : List Row) :
    Reports (sorted keys rows) (rows.findSome? (Row.unsortable? keys)) :=
  reports_keyed (fun hnil row => by rw [hnil]; rfl) (Row.reports_orderCells keys) _ rows

/-! ## What a select fails with -/

/-- The filter is decided on every row, and no tables are joined. -/
def Decided (s : Select) (rows : List Row) : Prop :=
  s.joins = [] ∧ ∀ row ∈ rows, undecided? s.filter? row = none

/-- Furthermore, every row that matches holds the columns to group by. -/
def Groupable (s : Select) (rows : List Row) : Prop :=
  s.Decided rows ∧ ∀ i, s.Matches rows i → (rows.get i).lack? s.groupBy = none

/-- Furthermore, every row that leads its group has scalars to sort by. -/
def Sortable (s : Select) (rows : List Row) : Prop :=
  s.Groupable rows ∧ ∀ i, s.Leads rows i → (rows.get i).unsortable? s.orderBy = none

/-- The places that lead, in the order of the answer. -/
def Arranged (s : Select) (rows : List Row) (places : List (Fin rows.length)) : Prop :=
  (∀ i, i ∈ places ↔ s.Leads rows i) ∧ places.Pairwise (s.Precedes rows)

/-- The places that lead are arranged in one way. -/
theorem Arranged.unique {places places' : List (Fin rows.length)} (h : s.Arranged rows places)
    (h' : s.Arranged rows places') : places = places' :=
  eq_of_precedes h.2 h'.2 fun i => (h.1 i).trans (h'.1 i).symm

/-- The fault of the first row that has one, among the rows at some places, in some order. -/
def FirstFault (rows : List Row) (before : Fin rows.length → Fin rows.length → Prop)
    (among : Fin rows.length → Prop) (fault? : Row → Option QueryError) (e : QueryError) : Prop :=
  ∃ i, among i ∧ fault? (rows.get i) = some e ∧
    ∀ j, before j i → among j → fault? (rows.get j) = none

/-- What a select fails with: the fault of the first row in the first phase with a row at fault. -/
inductive FailsWith (s : Select) (rows : List Row) : QueryError → Prop
  /-- Joins are not answered. -/
  | joins (h : s.joins ≠ []) : FailsWith s rows .joinsNotSupported
  /-- Of all rows, the first that the filter cannot be decided on. -/
  | filter {e : QueryError} (h : s.joins = [])
      (hfirst : FirstFault rows (· < ·) (fun _ => True) (undecided? s.filter?) e) :
      FailsWith s rows e
  /-- Of the rows that match, the first that lacks a column to group by. -/
  | group {e : QueryError} (h : s.Decided rows)
      (hfirst : FirstFault rows (· < ·) (s.Matches rows) (Row.lack? s.groupBy) e) :
      FailsWith s rows e
  /-- Of the rows that lead their groups, the first without a scalar to sort by. -/
  | order {e : QueryError} (h : s.Groupable rows)
      (hfirst : FirstFault rows (· < ·) (s.Leads rows) (Row.unsortable? s.orderBy) e) :
      FailsWith s rows e
  /-- Of the rows in the window, in the order of the answer, the first that lacks a field. -/
  | field {e : QueryError} (h : s.Sortable rows) {places : List (Fin rows.length)}
      (harranged : s.Arranged rows places)
      (hfirst : FirstFault rows (s.Precedes rows) (· ∈ window s.skip? s.limit? places)
        (Row.lack? s.fields) e) :
      FailsWith s rows e

/-- The first fault in a list of places in order is that of the first place with one. -/
theorem findSome?_places_eq_some {before : Fin rows.length → Fin rows.length → Prop}
    {among : Fin rows.length → Prop} {fault? : Row → Option QueryError}
    {places : List (Fin rows.length)} (hasymm : ∀ i j, before i j → ¬ before j i)
    (hplaces : places.Pairwise before) (hmem : ∀ i, i ∈ places ↔ among i) :
    (places.map rows.get).findSome? fault? = some e ↔ FirstFault rows before among fault? e := by
  rw [List.findSome?_map, List.findSome?_eq_some_iff]
  constructor
  · rintro ⟨earlier, i, later, rfl, hi, hearlier⟩
    refine ⟨i, (hmem i).1 (by simp), hi, fun j hji hj => ?_⟩
    rw [List.pairwise_append, List.pairwise_cons] at hplaces
    rcases List.mem_append.1 ((hmem j).2 hj) with hj | hj
    · exact hearlier j hj
    · rcases List.mem_cons.1 hj with rfl | hj
      · exact absurd hji (hasymm j j hji)
      · exact absurd (hplaces.2.1.1 j hj) (hasymm j i hji)
  · rintro ⟨i, hi, hfault, hfirst⟩
    obtain ⟨earlier, later, rfl⟩ := List.append_of_mem ((hmem i).2 hi)
    refine ⟨earlier, i, later, rfl, hfault, fun j hj => hfirst j ?_ ((hmem j).1 (by simp [hj]))⟩
    exact (List.pairwise_append.1 hplaces).2.2 j hj i (by simp)

/-- No row at some places is at fault when the first fault is none. -/
theorem findSome?_places_eq_none {among : Fin rows.length → Prop} {fault? : Row → Option QueryError}
    {places : List (Fin rows.length)} (hmem : ∀ i, i ∈ places ↔ among i) :
    (places.map rows.get).findSome? fault? = none ↔ ∀ i, among i → fault? (rows.get i) = none := by
  simp [List.findSome?_map, hmem]

/-! ## Phase by phase -/

variable {kept firsts : List Row}

/-- Filtering fails with the fault of the first row. -/
theorem filtered_eq_error : filtered s.filter? rows = .error e ↔
    FirstFault rows (· < ·) (fun _ => True) (undecided? s.filter?) e := by
  have hplaces := reports_filtered s.filter? ((List.finRange rows.length).map rows.get) e
  rw [findSome?_places_eq_some (fun _ _ => lt_asymm) (List.pairwise_lt_finRange _)
    fun i => iff_true_intro (List.mem_finRange i), List.map_get_finRange] at hplaces
  exact hplaces

/-- The filter is decided on every row when filtering succeeds. -/
theorem decided_iff : s.Decided rows ↔
    s.joins = [] ∧ ∃ kept, filtered s.filter? rows = .ok kept := by
  rw [Decided, (reports_filtered s.filter? rows).exists_ok_iff, List.findSome?_eq_none_iff]

/-- Grouping fails with the fault of the first row that matches. -/
theorem grouped_eq_error (hkept : filtered s.filter? rows = .ok kept) :
    grouped s.groupBy kept = .error e ↔
      FirstFault rows (· < ·) (s.Matches rows) (Row.lack? s.groupBy) e := by
  obtain ⟨matching, rfl, hascending, hmatching⟩ := kept_places hkept
  exact (reports_grouped _ _ e).trans
    (findSome?_places_eq_some (fun _ _ => lt_asymm) hascending hmatching)

/-- Rows can be grouped when filtering and grouping succeed. -/
theorem groupable_iff : s.Groupable rows ↔ s.joins = [] ∧
    ∃ kept, filtered s.filter? rows = .ok kept ∧
    ∃ firsts, grouped s.groupBy kept = .ok firsts := by
  rw [Groupable, decided_iff, and_assoc]
  refine and_congr_right fun _ => ?_
  rw [← exists_and_right]
  refine exists_congr fun kept => and_congr_right fun hkept => ?_
  obtain ⟨matching, rfl, -, hmatching⟩ := kept_places hkept
  rw [(reports_grouped _ _).exists_ok_iff, findSome?_places_eq_none hmatching]

/-- Sorting fails with the fault of the first row that leads its group. -/
theorem sorted_eq_error (hkept : filtered s.filter? rows = .ok kept)
    (hfirsts : grouped s.groupBy kept = .ok firsts) : sorted s.orderBy firsts = .error e ↔
      FirstFault rows (· < ·) (s.Leads rows) (Row.unsortable? s.orderBy) e := by
  obtain ⟨leaders, rfl, hascending, hleaders⟩ := first_places hkept hfirsts
  exact (reports_sorted _ _ e).trans
    (findSome?_places_eq_some (fun _ _ => lt_asymm) hascending hleaders)

/-- Rows can be sorted when filtering, grouping and sorting succeed. -/
theorem sortable_iff : s.Sortable rows ↔ s.joins = [] ∧
    ∃ kept, filtered s.filter? rows = .ok kept ∧
    ∃ firsts, grouped s.groupBy kept = .ok firsts ∧
    ∃ ordered, sorted s.orderBy firsts = .ok ordered := by
  rw [Sortable, groupable_iff, and_assoc]
  refine and_congr_right fun _ => ?_
  rw [← exists_and_right]
  refine exists_congr fun kept => ?_
  rw [and_assoc]
  refine and_congr_right fun hkept => ?_
  rw [← exists_and_right]
  refine exists_congr fun firsts => and_congr_right fun hfirsts => ?_
  obtain ⟨leaders, rfl, -, hleaders⟩ := first_places hkept hfirsts
  rw [(reports_sorted _ _).exists_ok_iff, findSome?_places_eq_none hleaders]

/-- The fields of the rows in a window are chosen unless one of the rows lacks one. -/
theorem reports_window (s : Select) (places : List (Fin rows.length)) :
    Reports ((window s.skip? s.limit? (places.map rows.get)).mapM (Row.project s.fields))
      (((window s.skip? s.limit? places).map rows.get).findSome? (Row.lack? s.fields)) := by
  rw [window_map]
  exact .mapM fun row _ => row.reports_project s.fields

/-- Choosing fields fails with the fault of the first row in the window. -/
theorem window_eq_error {places : List (Fin rows.length)} (h : s.Arranged rows places) :
    (window s.skip? s.limit? (places.map rows.get)).mapM (Row.project s.fields) = .error e ↔
      FirstFault rows (s.Precedes rows) (· ∈ window s.skip? s.limit? places)
        (Row.lack? s.fields) e :=
  (reports_window s places e).trans (findSome?_places_eq_some (fun _ _ => Precedes.asymm)
    (h.2.sublist (window_sublist _ _ _)) fun _ => Iff.rfl)

/-! ## The result -/

/-- A select without joins fails in one of its phases. -/
theorem answer_eq_error : s.answer rows = .error e ↔
    s.joins ≠ [] ∧ e = .joinsNotSupported ∨ s.joins = [] ∧
      (filtered s.filter? rows = .error e ∨ ∃ kept, filtered s.filter? rows = .ok kept ∧
      (grouped s.groupBy kept = .error e ∨ ∃ firsts, grouped s.groupBy kept = .ok firsts ∧
      (sorted s.orderBy firsts = .error e ∨ ∃ ordered, sorted s.orderBy firsts = .ok ordered ∧
        (window s.skip? s.limit? ordered).mapM (Row.project s.fields) = .error e))) := by
  by_cases hjoins : s.joins = []
  · rw [answer_of_joins_nil hjoins]
    simp only [bind_eq_error, hjoins, ne_eq, not_true_eq_false, false_and, false_or, true_and]
  · have hfails : s.answer rows = .error .joinsNotSupported := by
      unfold answer
      rw [if_pos (by simpa using hjoins)]
      rfl
    simp [hfails, hjoins, eq_comm]

/-- A select fails with the first fault of its first phase at fault. -/
theorem failsWith_of_answer (h : s.answer rows = .error e) : s.FailsWith rows e := by
  rcases answer_eq_error.1 h with ⟨hjoins, rfl⟩ | ⟨hjoins, h | ⟨kept, hkept, h⟩⟩
  · exact .joins hjoins
  · exact .filter hjoins (filtered_eq_error.1 h)
  rcases h with h | ⟨firsts, hfirsts, h | ⟨ordered, hordered, h⟩⟩
  · exact .group (decided_iff.2 ⟨hjoins, _, hkept⟩) ((grouped_eq_error hkept).1 h)
  · exact .order (groupable_iff.2 ⟨hjoins, _, hkept, _, hfirsts⟩)
      ((sorted_eq_error hkept hfirsts).1 h)
  · obtain ⟨places, rfl, harranged⟩ := ordered_places hkept hfirsts hordered
    exact .field (sortable_iff.2 ⟨hjoins, _, hkept, _, hfirsts, _, hordered⟩) harranged
      ((window_eq_error harranged).1 h)

/-- Phases that have no row at fault before one that has are passed, and the answer fails there. -/
theorem answer_of_failsWith (h : s.FailsWith rows e) : s.answer rows = .error e := by
  rw [answer_eq_error]
  cases h with
  | joins hjoins => exact .inl ⟨hjoins, rfl⟩
  | filter hjoins hfirst => exact .inr ⟨hjoins, .inl (filtered_eq_error.2 hfirst)⟩
  | group hdecided hfirst =>
    obtain ⟨hjoins, kept, hkept⟩ := decided_iff.1 hdecided
    exact .inr ⟨hjoins, .inr ⟨kept, hkept, .inl ((grouped_eq_error hkept).2 hfirst)⟩⟩
  | order hgroupable hfirst =>
    obtain ⟨hjoins, kept, hkept, firsts, hfirsts⟩ := groupable_iff.1 hgroupable
    have hsort := (sorted_eq_error hkept hfirsts).2 hfirst
    exact .inr ⟨hjoins, .inr ⟨kept, hkept, .inr ⟨firsts, hfirsts, .inl hsort⟩⟩⟩
  | field hsortable harranged hfirst =>
    obtain ⟨hjoins, kept, hkept, firsts, hfirsts, ordered, hordered⟩ := sortable_iff.1 hsortable
    obtain ⟨places, rfl, harranged'⟩ := ordered_places hkept hfirsts hordered
    obtain rfl := harranged.unique harranged'
    have hproject := (window_eq_error harranged).2 hfirst
    exact .inr ⟨hjoins, .inr ⟨kept, hkept, .inr ⟨firsts, hfirsts, .inr ⟨_, hordered, hproject⟩⟩⟩⟩

/-- A select is answered when the rows that lead can be sorted and those in the window hold the
fields. -/
theorem exists_answer_iff : (∃ out, s.answer rows = .ok out) ↔ s.Sortable rows ∧
    ∀ places, s.Arranged rows places → ∀ i ∈ window s.skip? s.limit? places,
      (rows.get i).lack? s.fields = none := by
  have hwindow (places : List (Fin rows.length)) :
      (∃ out, (window s.skip? s.limit? (places.map rows.get)).mapM (Row.project s.fields) = .ok out)
        ↔ ∀ i ∈ window s.skip? s.limit? places, (rows.get i).lack? s.fields = none :=
    (reports_window s places).exists_ok_iff.trans (findSome?_places_eq_none fun _ => Iff.rfl)
  constructor
  · rintro ⟨out, h⟩
    obtain ⟨hjoins, kept, hkept, firsts, hfirsts, ordered, hordered, h⟩ := answer_eq_ok.1 h
    refine ⟨sortable_iff.2 ⟨hjoins, _, hkept, _, hfirsts, _, hordered⟩, fun places harranged => ?_⟩
    obtain ⟨places', rfl, harranged'⟩ := ordered_places hkept hfirsts hordered
    obtain rfl := harranged.unique harranged'
    exact (hwindow places).1 ⟨out, h⟩
  · rintro ⟨hsortable, hfields⟩
    obtain ⟨hjoins, kept, hkept, firsts, hfirsts, ordered, hordered⟩ := sortable_iff.1 hsortable
    obtain ⟨places, rfl, harranged⟩ := ordered_places hkept hfirsts hordered
    obtain ⟨out, hout⟩ := (hwindow places).2 (hfields places harranged)
    exact ⟨out, answer_eq_ok.2 ⟨hjoins, kept, hkept, firsts, hfirsts, _, hordered, hout⟩⟩

/-- How a select fails, and when it does not. -/
structure ReportsFirstFault (s : Select) : Prop where
  /-- It fails with the first fault of the first phase at fault, and with nothing else. -/
  error_iff : ∀ rows e, s.answer rows = .error e ↔ s.FailsWith rows e
  /-- It is answered, whatever is wrong with rows that are dropped before a phase could fail on them
  and with rows outside of the window. -/
  ok_iff : ∀ rows, (∃ out, s.answer rows = .ok out) ↔ s.Sortable rows ∧
    ∀ places, s.Arranged rows places → ∀ i ∈ window s.skip? s.limit? places,
      (rows.get i).lack? s.fields = none
  /-- A row that is left alone is not sorted, but it fails when it could not be. -/
  alone : ∀ rows i e, s.Groupable rows → (∀ j, s.Leads rows j ↔ j = i) →
    (rows.get i).unsortable? s.orderBy = some e → s.answer rows = .error e
  /-- An answer shows all rows in the window. -/
  complete : ∀ rows out, s.answer rows = .ok out → s.Reference rows out

/-- A select fails with the first fault of its first phase at fault, and else shows all rows in the
window. -/
theorem first_fault_reported (s : Select) : s.ReportsFirstFault where
  error_iff rows e := ⟨failsWith_of_answer, answer_of_failsWith⟩
  ok_iff rows := exists_answer_iff
  alone rows i e hgroupable halone hfault := by
    refine answer_of_failsWith (.order hgroupable ⟨i, (halone i).2 rfl, hfault, fun j hlt hj => ?_⟩)
    exact absurd ((halone j).1 hj) (ne_of_lt hlt)
  complete rows out := reference_of_answer

-- the third row cannot be grouped, which comes before that the second cannot be sorted; the first
-- lacks both columns but is dropped
example : let s : Select := {
      table := "t", groupBy := ["g"], orderBy := [⟨"n", .ascending⟩]
      filter? := some (.compareWith "a" .gt (.int 1)) }
    s.answer [.ofScalars [("a", .int 1)], .ofScalars [("a", .int 2), ("g", .null)],
      .ofScalars [("a", .int 3), ("n", .null)]] = .error (.missingField "g") := by cbv

end Select

end RowQuery
