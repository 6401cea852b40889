import RowQuery.Binary64.Integral
import Mathlib.Data.Nat.ModEq

/-!
# Comparing integers with floating-point numbers is exact

`Binary64.trunc` is division toward zero on the exact value (`units_trunc`), and the cast of an
integral number in range is that number (`toInt_toInt64_trunc`). So the comparison of an integer
with a number, though it goes by ranges, integral parts and fractions, is the comparison of their
exact values (`compareInt64_eq`), like that of two numbers (`totalCompare_of_numbers`).
-/

namespace RowQuery.Binary64

variable {x y : Binary64}

/-! ## Magnitudes -/

/-- One is a power of two of units. -/
theorem unitsPerOne_eq {n : Nat} (h : 1074 = n) : unitsPerOne = 2 ^ n := by
  delta unitsPerOne
  rw [h]
  rfl

/-- One is a positive number of units. -/
theorem unitsPerOne_pos : 0 < unitsPerOne := by
  obtain ⟨n, hn⟩ : ∃ n, 1074 = n := ⟨_, rfl⟩
  rw [unitsPerOne_eq hn]
  exact Nat.two_pow_pos n

/-- One as a product of powers of two. -/
theorem unitsPerOne_eq_mul {m n : Nat} (h : 1074 = m + n) : unitsPerOne = 2 ^ m * 2 ^ n := by
  rw [unitsPerOne_eq h, Nat.pow_add]

/-- The magnitude of a number of the normal range. -/
theorem magnitude_of_normal (h : x.exponent.val ≠ 0) :
    x.magnitude = (2 ^ 52 + x.fraction.val) * 2 ^ (x.exponent.val - 1) := if_neg h

/-- The magnitude is bounded by the exponent. -/
theorem magnitude_lt (x : Binary64) : x.magnitude < 2 ^ (53 + (x.exponent.val - 1)) := by
  have hfraction : x.fraction.val < 2 ^ 52 := x.fraction.isLt
  rw [Nat.pow_add]
  by_cases h : x.exponent.val = 0
  · rw [magnitude, if_pos h, h]
    omega
  · rw [magnitude_of_normal h]
    exact Nat.mul_lt_mul_of_pos_right (by omega) (Nat.two_pow_pos _)

/-- The magnitude of the integral part. -/
theorem magnitude_trunc (x : Binary64) :
    x.trunc.magnitude = x.magnitude / unitsPerOne * unitsPerOne := by
  unfold trunc
  split
  · next h =>
    have hsmall : x.magnitude < unitsPerOne := by
      obtain ⟨n, hn⟩ : ∃ n, 1074 = n := ⟨_, rfl⟩
      rw [unitsPerOne_eq hn]
      exact Nat.lt_of_lt_of_le x.magnitude_lt (Nat.pow_le_pow_right (by decide) (by omega))
    rw [Nat.div_eq_of_lt hsmall, Nat.zero_mul]
    rfl
  split
  · next h =>
    have hpow : 2 ^ (x.exponent.val - 1) = 2 ^ (x.exponent.val - 1075) * unitsPerOne := by
      obtain ⟨n, hn⟩ : ∃ n, 1074 = n := ⟨_, rfl⟩
      rw [unitsPerOne_eq hn, ← Nat.pow_add]
      congr 1
      omega
    rw [magnitude_of_normal (by omega), hpow, ← Nat.mul_assoc,
      Nat.mul_div_cancel _ unitsPerOne_pos]
  · next h h' =>
    -- the fraction below one is in the last bits, which are cleared
    have hone := unitsPerOne_eq_mul
      (show 1074 = (1075 - x.exponent.val) + (x.exponent.val - 1) by omega)
    have hdvd : 2 ^ (1075 - x.exponent.val) ∣ 2 ^ 52 := Nat.pow_dvd_pow 2 (by omega)
    have hclear : 2 ^ 52 + x.fraction.val / 2 ^ (1075 - x.exponent.val) *
        2 ^ (1075 - x.exponent.val) = (2 ^ 52 + x.fraction.val) / 2 ^ (1075 - x.exponent.val) *
        2 ^ (1075 - x.exponent.val) := by
      rw [Nat.add_div_of_dvd_right hdvd, Nat.add_mul, Nat.div_mul_cancel hdvd]
    have hnormal : x.exponent.val ≠ 0 := by omega
    rw [magnitude_of_normal (x := x) hnormal, hone,
      Nat.mul_div_mul_right _ _ (Nat.two_pow_pos _), ← Nat.mul_assoc, ← hclear]
    exact magnitude_of_normal hnormal

/-- The integral part has the sign of the number. -/
theorem negative_trunc (x : Binary64) : x.trunc.negative = x.negative := by
  unfold trunc
  split
  · rfl
  split <;> rfl

/-- A number has an integral part that is a number. -/
theorem not_isNaN_trunc (h : ¬ x.IsNaN) : ¬ x.trunc.IsNaN := by
  unfold trunc
  split
  · exact fun hnan => hnan.2 rfl
  split
  · exact h
  · next hlarge =>
    intro hnan
    have hexponent : x.exponent = 2047 := hnan.1
    exact hlarge (by rw [hexponent]; decide)

/-- The integral part is the value divided by one, toward zero. -/
theorem units_trunc (x : Binary64) :
    x.trunc.units = x.units.tdiv unitsPerOne * unitsPerOne := by
  unfold units
  rw [negative_trunc, magnitude_trunc]
  split
  · rw [Int.neg_tdiv, Int.natCast_mul, Int.neg_mul]
    rfl
  · rw [Int.natCast_mul]
    rfl

/-! ## Casts -/

/-- The bound of the integers is `2 ^ 63`. -/
theorem units_int64Bound (negative : Bool) : (int64Bound negative).units =
    if negative then -(2 ^ 63 * (unitsPerOne : Int)) else 2 ^ 63 * (unitsPerOne : Int) := by
  have hmagnitude : (int64Bound negative).magnitude = 2 ^ 63 * unitsPerOne := by
    obtain ⟨e, he⟩ : ∃ e, (int64Bound negative).exponent.val = e := ⟨_, rfl⟩
    obtain ⟨n, hn⟩ : ∃ n, 1074 = n := ⟨_, rfl⟩
    have hexponent : e = 1086 := he.symm
    have hfraction : (int64Bound negative).fraction.val = 0 := rfl
    rw [magnitude_of_normal (by omega), hfraction, Nat.add_zero, he, unitsPerOne_eq hn,
      ← Nat.pow_add, ← Nat.pow_add]
    congr 1
    omega
  unfold units
  rw [hmagnitude, Int.natCast_mul]
  rfl

/-- An integral part in the range of the integers is cast to itself. -/
theorem toInt_toInt64_trunc (h : ¬ x.IsNaN) (low : -2 ^ 63 ≤ x.units.tdiv unitsPerOne)
    (high : x.units.tdiv unitsPerOne < 2 ^ 63) :
    x.trunc.toInt64.toInt = x.units.tdiv unitsPerOne := by
  have hone : (unitsPerOne : Int) ≠ 0 := Int.natCast_ne_zero.2 (Nat.ne_of_gt unitsPerOne_pos)
  rw [toInt64, if_neg (not_isNaN_trunc h), units_trunc, Int.mul_tdiv_cancel _ hone]
  exact Int64.toInt_ofIntClamp low (Int.lt_add_one_iff.1 high)

/-! ## Comparisons -/

/-- The order of an integer and a value is that of the integer and the integral part of the value,
and where these are equal, that of the integral part and the value. -/
theorem compare_mul_eq_then (i v : Int) {one : Int} (hone : 0 < one) :
    compare (i * one) v = (compare i (v.tdiv one)).then (compare (v.tdiv one * one) v) := by
  rcases Int.lt_trichotomy i (v.tdiv one) with h | h | h
  · have hlt : i * one < v := by
      refine Int.not_le.1 fun hle => Int.not_le.2 h ?_
      have hdiv := Int.tdiv_le_tdiv hone hle
      rwa [Int.mul_tdiv_cancel _ (Int.ne_of_gt hone)] at hdiv
    rw [Int.compare_eq_lt.2 h, Int.compare_eq_lt.2 hlt]
    rfl
  · rw [← h, Int.compare_eq_eq.2 rfl]
    rfl
  · rw [Int.compare_eq_gt.2 h, Int.compare_eq_gt.2 (Int.lt_mul_of_tdiv_lt hone h)]
    rfl

/-- Division toward zero of less than a positive multiple. -/
theorem tdiv_lt_of_lt_mul {n v one : Int} (hone : 0 < one) (hn : 0 < n) (h : v < n * one) :
    v.tdiv one < n := by
  rcases Int.lt_or_le v 0 with hneg | hpos
  · have hdiv := Int.tdiv_le_tdiv hone (Int.le_of_lt hneg)
    rw [Int.zero_tdiv] at hdiv
    exact Int.lt_of_le_of_lt hdiv hn
  · have hsplit : v.tdiv one * one + v.tmod one = v := Int.tdiv_mul_add_tmod v one
    have hrest := Int.tmod_nonneg one hpos
    refine Int.lt_of_mul_lt_mul_right (a := one) ?_ (Int.le_of_lt hone)
    omega

/-- Numbers have an order by value. -/
theorem compare?_of_numbers (hx : ¬ x.IsNaN) (hy : ¬ y.IsNaN) :
    x.compare? y = some (compare x.units y.units) := if_neg (not_or.2 ⟨hx, hy⟩)

/-- A number is below another by value. -/
theorem lt_iff (hx : ¬ x.IsNaN) (hy : ¬ y.IsNaN) : x.lt y = true ↔ x.units < y.units := by
  simp [lt, compare?_of_numbers hx hy, Int.compare_eq_lt]

/-- A number is not above another by value. -/
theorem le_iff (hx : ¬ x.IsNaN) (hy : ¬ y.IsNaN) : x.le y = true ↔ x.units ≤ y.units := by
  simp [le, compare?_of_numbers hx hy, Int.isLE_compare]

/-- Two numbers are sorted by their exact values. -/
theorem totalCompare_of_numbers (hx : ¬ x.IsNaN) (hy : ¬ y.IsNaN) :
    x.totalCompare y = compare x.units y.units := by
  rw [totalCompare, decide_eq_false hx, decide_eq_false hy, compare?_of_numbers hx hy]
  rfl

/-- An integer and a number are sorted by their exact values, and a not-a-number lies above every
integer. -/
theorem compareInt64_eq (i : Int64) (x : Binary64) :
    compareInt64 i x = (compareInt? i.toInt x).getD .lt := by
  unfold compareInt64 compareInt?
  by_cases hnan : x.IsNaN
  · rw [decide_eq_true hnan, if_pos hnan]
    rfl
  rw [decide_eq_false hnan, if_neg hnan, Bool.false_or, Option.getD_some]
  have hone : (0 : Int) < unitsPerOne := Int.natCast_pos.2 unitsPerOne_pos
  have hbound : ∀ negative, ¬ (int64Bound negative).IsNaN := fun negative h => h.2 rfl
  have hlow : -2 ^ 63 * (unitsPerOne : Int) ≤ i.toInt * unitsPerOne :=
    Int.mul_le_mul_of_nonneg_right i.le_toInt (Int.le_of_lt hone)
  have hhigh : i.toInt * unitsPerOne < 2 ^ 63 * (unitsPerOne : Int) :=
    Int.mul_lt_mul_of_pos_right i.toInt_lt hone
  split
  · next habove =>
    rw [le_iff (hbound false) hnan, units_int64Bound] at habove
    exact (Int.compare_eq_lt.2 (Int.lt_of_lt_of_le hhigh habove)).symm
  next habove =>
  rw [le_iff (hbound false) hnan, units_int64Bound, Int.not_le] at habove
  split
  · next hbelow =>
    rw [lt_iff hnan (hbound true), units_int64Bound, ← Int.neg_mul] at hbelow
    exact (Int.compare_eq_gt.2 (Int.lt_of_lt_of_le hbelow hlow)).symm
  · next hbelow =>
    rw [lt_iff hnan (hbound true), units_int64Bound, ← Int.neg_mul, Int.not_lt] at hbelow
    have hcast : x.trunc.toInt64.toInt = x.units.tdiv unitsPerOne :=
      toInt_toInt64_trunc hnan (Int.le_tdiv_of_mul_le hone hbelow)
        (tdiv_lt_of_lt_mul hone (by decide) habove)
    dsimp only
    rw [totalCompare_of_numbers (not_isNaN_trunc hnan) hnan, units_trunc, hcast]
    exact (compare_mul_eq_then i.toInt x.units hone).symm

end RowQuery.Binary64
