import RowQuery.Proofs.Scalar.Order
import RowQuery.Proofs.Steps
import RowQuery.Select.Answer
import Mathlib.Data.List.Sort

/-!
# The order of an answer

`Row.order?` is the order of two rows by sort keys, cell by cell. The cells that sorting takes out
of the rows beforehand compare in that order (`Row.order?_eq_some`), and the comparison is a total
order of lists of cells (`compareCells`). A stable sort by it leaves what it does not tell apart as
it was (`pairwise_mergeSort_of_pairwise`).
-/

namespace RowQuery

/-! ## Rows -/

/-- The order of two rows by a key, if both have a scalar there. -/
def OrderKey.order? (key : OrderKey) (row row' : Row) : Option Ordering :=
  match row.cell key.column, row'.cell key.column with
  | .ok a, .ok b =>
    match key.direction with
    | .ascending => some (a.sortCompare b)
    | .descending => some (b.sortCompare a)
  | _, _ => none

/-- The order of two rows by keys: that of the first key that tells them apart. -/
def Row.order? (keys : List OrderKey) (row row' : Row) : Option Ordering :=
  match keys with
  | [] => some .eq
  | key :: keys =>
    match key.order? row row' with
    | some .eq => Row.order? keys row row'
    | o? => o?

/-- The order by a key is reversed in the other direction. -/
theorem OrderKey.order?_swap (key : OrderKey) (row row' : Row) :
    key.order? row' row = (key.order? row row').map Ordering.swap := by
  unfold order?
  cases row.cell key.column with
  | error => cases row'.cell key.column <;> rfl
  | ok a =>
    cases row'.cell key.column with
    | error => rfl
    | ok b => cases key.direction <;> exact congrArg some Std.OrientedCmp.eq_swap

/-- The order by keys is reversed in the other direction. -/
theorem Row.order?_swap (keys : List OrderKey) (row row' : Row) :
    Row.order? keys row' row = (Row.order? keys row row').map Ordering.swap := by
  induction keys with
  | nil => rfl
  | cons key keys ih =>
    rw [Row.order?, Row.order?, key.order?_swap row row']
    cases key.order? row row' with
    | none => rfl
    | some o => cases o <;> first | exact ih | rfl

/-! ## Cells -/

/-- The cells of a row in the columns of keys, with null for one that is not there. -/
def Row.cellsOrNull (keys : List OrderKey) (row : Row) : List Scalar :=
  keys.map fun key => (row.cell key.column).toOption.getD .null

/-- The cells that a row is sorted by. -/
theorem Row.cellsOrNull_of_orderCells {keys : List OrderKey} {row : Row} {cells : List Scalar}
    (h : row.orderCells keys = .ok cells) : row.cellsOrNull keys = cells := by
  refine (mapM_eq_map h fun key cell hcell => ?_).1
  rw [hcell]
  rfl

/-- Rows whose cells are there have an order, in which their cells compare. -/
theorem Row.order?_eq_some {keys : List OrderKey} {row row' : Row} {as bs : List Scalar}
    (ha : row.orderCells keys = .ok as) (hb : row'.orderCells keys = .ok bs) :
    Row.order? keys row row' = some (compareCells keys as bs) := by
  replace ha := mapM_eq_ok.1 ha
  replace hb := mapM_eq_ok.1 hb
  induction ha generalizing bs with
  | nil => rfl
  | @cons key a keys as ha _ ih =>
    cases hb with
    | @cons _ b _ bs hb hbs =>
      have hkey : key.order? row row' = some (key.direction.orient (a.sortCompare b)) := by
        rw [OrderKey.order?, ha, hb]
        cases key.direction with
        | ascending => rfl
        | descending => exact congrArg some Std.OrientedCmp.eq_swap
      rw [Row.order?, hkey, compareCells]
      cases key.direction.orient (a.sortCompare b) <;> first | exact ih hbs | rfl

/-- The order of scalars in a direction is total. -/
instance transCmp_orient (direction : Direction) :
    Std.TransCmp fun a b : Scalar => direction.orient (a.sortCompare b) := by
  cases direction with
  | ascending => exact inferInstanceAs (Std.TransCmp Scalar.sortCompare)
  | descending =>
    have hswap : (fun a b : Scalar => (a.sortCompare b).swap) = fun a b => b.sortCompare a := by
      funext a b
      exact Std.OrientedCmp.eq_swap.symm
    show Std.TransCmp fun a b : Scalar => (a.sortCompare b).swap
    rw [hswap]
    infer_instance

/-- The order of rows by their cells is total. -/
instance transCmp_compareCells (keys : List OrderKey) : Std.TransCmp fun row row' : Row =>
    compareCells keys (row.cellsOrNull keys) (row'.cellsOrNull keys) := by
  induction keys with
  | nil => exact { eq_swap := rfl, isLE_trans := fun _ _ => rfl }
  | cons key keys ih =>
    let cell (row : Row) : Scalar := (row.cell key.column).toOption.getD .null
    have hkey : Std.TransCmp fun row row' : Row =>
        key.direction.orient ((cell row).sortCompare (cell row')) :=
      { eq_swap := fun {row row'} => transCmp_orient key.direction |>.eq_swap
        isLE_trans := fun {_ _ _} => (transCmp_orient key.direction).isLE_trans }
    exact inferInstanceAs (Std.TransCmp (compareLex
      (fun row row' : Row => key.direction.orient ((cell row).sortCompare (cell row')))
      fun row row' : Row => compareCells keys (row.cellsOrNull keys) (row'.cellsOrNull keys)))

/-! ## Stable sorting -/

variable {α : Type}

/-- Two elements of a list without repetition stand in it in one order only. -/
theorem not_pair_sublist_swap {l : List α} (hl : l.Nodup) {a b : α} (hab : [a, b].Sublist l) :
    ¬ [b, a].Sublist l := by
  induction l with
  | nil => nomatch hab
  | cons x l ih =>
    rw [List.nodup_cons] at hl
    intro hba
    cases hab with
    | cons _ hab =>
      cases hba with
      | cons _ hba => exact ih hl.2 hab hba
      | cons_cons _ _ => exact hl.1 (hab.subset (by simp))
    | cons_cons _ hb =>
      cases hba with
      | cons _ hba => exact hl.1 (hba.subset (by simp))
      | cons_cons _ _ => exact hl.1 (hb.subset (by simp))

/-- Sorting an ascending list by another order puts it in that order, and what the other order does
not tell apart stays ascending. -/
theorem pairwise_mergeSort_of_pairwise [LinearOrder α] (cmp : α → α → Ordering) [Std.TransCmp cmp]
    {l : List α} (hl : l.Pairwise (· < ·)) :
    (l.mergeSort fun a b => cmp a b != .gt).Pairwise
      fun a b => cmp a b = .lt ∨ cmp a b = .eq ∧ a < b := by
  have htrans : ∀ a b c, cmp a b != .gt → cmp b c != .gt → cmp a c != .gt := by
    simp only [bne_iff_ne, ← Ordering.isLE_iff_ne_gt]
    exact fun a b c => Std.TransCmp.isLE_trans
  have hswap (a b : α) : cmp a b = (cmp b a).swap := Std.OrientedCmp.eq_swap
  have htotal : ∀ a b, (cmp a b != .gt || cmp b a != .gt) := fun a b => by
    rw [hswap]
    cases cmp b a <;> rfl
  have hsorted := List.pairwise_mergeSort htrans htotal l
  have hnodup : (l.mergeSort fun a b => cmp a b != .gt).Nodup :=
    (List.mergeSort_perm l _).nodup_iff.2 (hl.imp ne_of_lt)
  refine List.pairwise_iff_forall_sublist.2 fun {a b} hab => ?_
  have hle := List.pairwise_iff_forall_sublist.1 hsorted hab
  cases hcmp : cmp a b with
  | lt => exact .inl rfl
  | gt => simp [hcmp] at hle
  | eq =>
    refine .inr ⟨rfl, ?_⟩
    rcases lt_trichotomy a b with hlt | heq | hgt
    · exact hlt
    · exact absurd (heq ▸ hab) (List.nodup_iff_sublist.1 hnodup b)
    · -- `b` stands before `a` in the list, so a stable sort leaves it there
      have hmem : [a, b] ⊆ l := fun x hx => (List.mergeSort_perm l _).subset (hab.subset hx)
      have hba : [b, a].Sublist l := by
        refine List.sublist_of_subperm_of_pairwise (List.subperm_of_subset ?_ ?_) ?_ hl
        · simpa using ne_of_lt hgt
        · exact fun x hx => hmem (by simpa [or_comm] using hx)
        · simpa using hgt
      have hge : cmp b a != .gt := by
        rw [hswap, hcmp]
        rfl
      exact absurd (List.pair_sublist_mergeSort htrans htotal hge hba)
        (not_pair_sublist_swap hnodup hab)

end RowQuery
