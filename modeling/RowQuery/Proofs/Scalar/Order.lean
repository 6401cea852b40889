import RowQuery.Proofs.Binary64.Value
import RowQuery.Proofs.Text.Utf8
import RowQuery.Scalar.Order
import Mathlib.Order.Std

/-!
# Scalars are sorted by a total order

`Scalar.sortCompare` takes a case for each pair of kinds. It is a lexicographic comparison of three
keys (`sortCompare_eq_compareLex`): the rank of the kind, the exact value of a number
(`SortNumber.key`) and the letters of a text. So it inherits from the keys that it is oriented and
transitive, and it is exact on numbers (`sortCompare_of_values`). `ExactOrder` says what an order of
all scalars has to be, and sorting is one (`sortCompare_exactOrder`).
-/

namespace RowQuery.Scalar

open Binary64 (Extended)

/-! ## Numbers -/

/-- The exact value of a scalar that counts as a number, unless it is not a number. -/
def extended? : Scalar → Option Extended
  | .bool b => some ((if b then 1 else 0 : ℚ) : WithTop ℚ)
  | .int i => some ((i.toInt : ℚ) : WithTop ℚ)
  | .float x => if x.IsNaN then none else some x.value
  | .null | .text _ => none

/-- The exact value of a number, with a not-a-number on top. -/
def SortNumber.key : SortNumber → WithTop Extended
  | .int i => (((i.toInt : ℚ) : WithTop ℚ) : Extended)
  | .float x => if x.IsNaN then ⊤ else x.value

/-- Exact values compare the same with a top above them. -/
theorem compare_coe (v w : Extended) : compare (v : WithTop Extended) w = compare v w := by
  rw [← cmp_eq_compare, ← cmp_eq_compare]
  exact WithTop.coe_strictMono.cmp_map_eq v w

/-- Every exact value is below the top. -/
theorem compare_coe_top (v : Extended) : compare (v : WithTop Extended) ⊤ = .lt :=
  compare_lt_iff_lt.2 (WithTop.coe_lt_top v)

/-- An integer and a floating-point number compare by their exact values. -/
theorem compareInt64_eq_compare_key (i : Int64) (x : Binary64) :
    Binary64.compareInt64 i x =
      compare (SortNumber.int i).key (SortNumber.float x).key := by
  rw [Binary64.compareInt64_eq, SortNumber.key, SortNumber.key, Binary64.compareInt?]
  by_cases h : x.IsNaN
  · rw [if_pos h, if_pos h, compare_coe_top]
    rfl
  · rw [if_neg h, if_neg h, compare_coe, Option.getD_some]
    exact (Binary64.counts_int i).compare_eq (Binary64.counts_units h)

/-- Two floating-point numbers compare by their exact values, a not-a-number above all others. -/
theorem totalCompare_eq_compare_key (x y : Binary64) :
    x.totalCompare y = compare (SortNumber.float x).key (SortNumber.float y).key := by
  rw [SortNumber.key, SortNumber.key]
  by_cases hx : x.IsNaN <;> by_cases hy : y.IsNaN
  · rw [if_pos hx, if_pos hy, Std.compare_self, Binary64.totalCompare, decide_eq_true hx,
      decide_eq_true hy]
  · rw [if_pos hx, if_neg hy, Std.OrientedOrd.eq_swap, compare_coe_top, Binary64.totalCompare,
      decide_eq_true hx, decide_eq_false hy]
    rfl
  · rw [if_neg hx, if_pos hy, compare_coe_top, Binary64.totalCompare, decide_eq_false hx,
      decide_eq_true hy]
  · rw [if_neg hx, if_neg hy, compare_coe, Binary64.totalCompare_of_numbers hx hy]
    exact (Binary64.counts_units hx).compare_eq (Binary64.counts_units hy)

/-- Numbers are sorted by their exact values. -/
theorem SortNumber.compare_eq (m n : SortNumber) :
    m.compare n = Ord.compare m.key n.key := by
  cases m with
  | int i =>
    cases n with
    | int j =>
      have hcast : StrictMono fun k : Int => (((k : ℚ) : WithTop ℚ) : Extended) := fun k l h =>
        WithBot.coe_lt_coe.2 (WithTop.coe_lt_coe.2 (Int.cast_lt.2 h))
      rw [key, key, compare_coe, ← cmp_eq_compare, hcast.cmp_map_eq, cmp_eq_compare]
      rfl
    | float x => exact compareInt64_eq_compare_key i x
  | float x =>
    cases n with
    | int i =>
      rw [Std.OrientedOrd.eq_swap, ← compareInt64_eq_compare_key i x]
      rfl
    | float y => exact totalCompare_eq_compare_key x y

/-- The key of a scalar with an exact value is that value. -/
theorem key_sortNumber {a : Scalar} {v : Extended} (h : a.extended? = some v) :
    a.sortNumber.key = v := by
  cases a with
  | null | text => nomatch h
  | bool b =>
    cases h
    cases b <;> simp [sortNumber, SortNumber.key]
  | int i =>
    cases h
    rfl
  | float x =>
    rw [extended?, Option.ite_none_left_eq_some] at h
    rw [sortNumber, SortNumber.key, if_neg h.1, Option.some.inj h.2]

/-- A scalar with an exact value is sorted among the numbers. -/
theorem sortRank_of_value {a : Scalar} {v : Extended} (h : a.extended? = some v) : a.sortRank = 1 := by
  cases a with
  | null | text => nomatch h
  | bool | int | float => rfl

/-! ## All scalars -/

/-- The letters of a text, and none of another scalar. -/
def letters : Scalar → String
  | .text s => s
  | _ => ""

/-- The order of two numbers, told apart by a rank that is the same. -/
theorem sortCompare_of_rank {a b : Scalar} (ha : a.sortRank = 1) (hb : b.sortRank = 1) :
    a.sortCompare b = a.sortNumber.compare b.sortNumber := by
  cases a <;> cases ha <;> cases b <;> cases hb <;> rfl

/-- Sorting compares by rank, then by number, then by letters. -/
theorem sortCompare_eq_compareLex : sortCompare =
    compareLex (compareOn sortRank)
      (compareLex (compareOn fun a => a.sortNumber.key) (compareOn letters)) := by
  funext a b
  show _ = (compare a.sortRank b.sortRank).then
    ((compare a.sortNumber.key b.sortNumber.key).then (compare a.letters b.letters))
  rw [← SortNumber.compare_eq]
  have hnumbers {a b : Scalar} (ha : a.sortRank = 1) (hb : b.sortRank = 1)
      (hletters : a.letters = b.letters) : a.sortCompare b = (compare a.sortRank b.sortRank).then
        ((a.sortNumber.compare b.sortNumber).then (compare a.letters b.letters)) := by
    rw [sortCompare_of_rank ha hb, ha, hb, hletters, Std.compare_self, Std.compare_self,
      Ordering.then_eq]
    rfl
  cases a with
  | null => cases b <;> rfl
  | bool | int | float =>
    cases b with
    | null | text => rfl
    | bool | int | float => exact hnumbers rfl rfl rfl
  | text s =>
    cases b with
    | text t => rfl
    | null | bool | int | float => rfl

/-- Sorting is a total order up to equality. -/
instance : Std.TransCmp sortCompare := by
  rw [sortCompare_eq_compareLex]
  infer_instance

/-- Scalars with exact values are sorted by them. -/
theorem sortCompare_of_values {a b : Scalar} {v w : Extended} (ha : a.extended? = some v)
    (hb : b.extended? = some w) : a.sortCompare b = compare v w := by
  rw [sortCompare_of_rank (sortRank_of_value ha) (sortRank_of_value hb), SortNumber.compare_eq,
    key_sortNumber ha, key_sortNumber hb, compare_coe]

/-! ## The order -/

/-- Whether a scalar is sorted among the numbers, as Booleans are. -/
def IsNumber : Scalar → Prop
  | .bool _ | .int _ | .float _ => True
  | .null | .text _ => False

/-- A comparison that orders all scalars, numbers by their exact values and texts by their bytes. -/
structure ExactOrder (cmp : Scalar → Scalar → Ordering) : Prop where
  /-- The order in the other direction is the reverse. -/
  swap : ∀ a b, cmp b a = (cmp a b).swap
  /-- The order is transitive. -/
  trans : ∀ a b c, (cmp a b).isLE → (cmp b c).isLE → (cmp a c).isLE
  /-- To be equal in the order is an equivalence. -/
  equivalence : Equivalence fun a b => cmp a b = .eq
  /-- Equal scalars stand in the same order to equal scalars. -/
  congr : ∀ a a' b b', cmp a a' = .eq → cmp b b' = .eq → cmp a b = cmp a' b'
  /-- Null comes before every number. -/
  null_number : ∀ a : Scalar, a.IsNumber → cmp .null a = .lt
  /-- Null comes before every text. -/
  null_text : ∀ s, cmp .null (.text s) = .lt
  /-- Every number comes before every text. -/
  number_text : ∀ a : Scalar, a.IsNumber → ∀ s, cmp a (.text s) = .lt
  /-- Numbers are in the order of their exact values, infinities included. -/
  values : ∀ (a b : Scalar) v w, a.extended? = some v → b.extended? = some w → cmp a b = compare v w
  /-- All not-a-numbers are equal. -/
  nan_nan : ∀ x y : Binary64, x.IsNaN → y.IsNaN → cmp (.float x) (.float y) = .eq
  /-- A not-a-number comes after every other number. -/
  value_nan : ∀ (a : Scalar) v, a.extended? = some v → ∀ x : Binary64, x.IsNaN →
    cmp a (.float x) = .lt
  /-- Texts are in the order of their bytes. -/
  texts : ∀ s t, cmp (.text s) (.text t) = compare (Text.bytes s) (Text.bytes t)

/-- Sorting is by an exact order of all scalars. -/
theorem sortCompare_exactOrder : ExactOrder sortCompare where
  swap _ _ := Std.OrientedCmp.eq_swap
  trans _ _ _ := Std.TransCmp.isLE_trans
  equivalence := ⟨fun _ => Std.ReflCmp.compare_self, Std.OrientedCmp.eq_symm, Std.TransCmp.eq_trans⟩
  congr _ _ _ _ h h' := (Std.TransCmp.congr_left h).trans (Std.TransCmp.congr_right h')
  null_number a h := by
    cases a with
    | null | text => exact h.elim
    | bool | int | float => rfl
  null_text _ := rfl
  number_text a h s := by
    cases a with
    | null | text => exact h.elim
    | bool | int | float => rfl
  values _ _ _ _ := sortCompare_of_values
  nan_nan x y hx hy := by
    rw [sortCompare_of_rank rfl rfl]
    show x.totalCompare y = .eq
    rw [Binary64.totalCompare, decide_eq_true hx, decide_eq_true hy]
  value_nan a v h x hx := by
    rw [sortCompare_of_rank (sortRank_of_value h) rfl, SortNumber.compare_eq, key_sortNumber h]
    show compare (v : WithTop Extended) (SortNumber.float x).key = .lt
    rw [SortNumber.key, if_pos hx, compare_coe_top]
  texts s t := (Text.compare_bytes s t).symm

-- an integer that no floating-point number equals is still told apart from the nearest one
example : (int 9007199254740993).sortCompare (float ⟨false, 1076, 0⟩) = .gt := by decide +kernel

end RowQuery.Scalar
