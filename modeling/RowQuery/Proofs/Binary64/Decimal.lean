import Mathlib.Algebra.Order.Field.Power
import Mathlib.Data.Nat.Cast.Order.Field
import Mathlib.Tactic.Positivity
import RowQuery.Binary64.Shortest
import RowQuery.Proofs.Binary64.Rounding

/-!
# Decimals and the numbers nearest to them

The number nearest to a decimal is the one nearest to its value as a quotient
(`Binary64.ofDecimal_eq_ofRatio`): where it is answered without computing a power it is out of
range. So decimals of one value (`Decimal.value`) are read as one number
(`Binary64.ofDecimal_congr`), whatever zeros are behind their digits, and the decimal in which a
finite number is written is read as the number (`Binary64.readsBack_shortest`).
-/

namespace RowQuery

/-! ## Values -/

namespace Decimal

variable {d d' : Decimal}

/-- The value of a decimal. -/
def value (d : Decimal) : ℚ := d.digits * (10 : ℚ) ^ d.exponent

/-- The value of a decimal as a quotient of natural numbers. -/
theorem value_eq_div (d : Decimal) : d.value =
    ((d.digits * 10 ^ d.exponent.toNat : ℕ) : ℚ) / ((10 ^ (-d.exponent).toNat : ℕ) : ℚ) := by
  unfold value
  rcases Int.eq_nat_or_neg d.exponent with ⟨n, h | h⟩
  · have hneg : (-(n : ℤ)).toNat = 0 := by omega
    rw [h, hneg, Int.toNat_natCast, zpow_natCast]
    simp
  · have hneg : (-(n : ℤ)).toNat = 0 := by omega
    rw [h, hneg, neg_neg, Int.toNat_natCast, zpow_neg, zpow_natCast]
    simp [div_eq_mul_inv]

/-- Decimals of one exponent are in the order of their digits. -/
theorem value_le_value {digits digits' : Nat} (exponent : Int) (h : digits ≤ digits') :
    (⟨digits, exponent⟩ : Decimal).value ≤ (⟨digits', exponent⟩ : Decimal).value :=
  mul_le_mul_of_nonneg_right (Nat.cast_le.2 h) (by positivity)

/-- The digits of a decimal of a greater exponent, on the grid of a lower one. -/
theorem value_regrid (digits k : Nat) (exponent : Int) :
    (⟨digits * 10 ^ k, exponent⟩ : Decimal).value = (⟨digits, exponent + k⟩ : Decimal).value := by
  unfold value
  dsimp only
  rw [zpow_add₀ (by norm_num), zpow_natCast]
  push_cast
  ring

/-- Equal values of decimals without zeros behind their digits are those of one decimal. -/
theorem eq_of_value_eq (h : d.digits % 10 ≠ 0) (h' : d'.digits % 10 ≠ 0)
    (hvalue : d.value = d'.value) : d = d' := by
  wlog hle : d.exponent ≤ d'.exponent generalizing d d'
  · exact (this h' h hvalue.symm (le_of_not_ge hle)).symm
  obtain ⟨k, hk⟩ := Int.le.dest hle
  obtain ⟨digits, exponent⟩ := d
  obtain ⟨digits', exponent'⟩ := d'
  dsimp only at hk h h'
  subst hk
  rw [← value_regrid] at hvalue
  have hdigits : digits = digits' * 10 ^ k := by
    have hcancel := mul_right_cancel₀ (zpow_ne_zero exponent (by norm_num : (10 : ℚ) ≠ 0)) hvalue
    exact_mod_cast hcancel
  rcases k with _ | k
  · simp [hdigits]
  · rw [hdigits, Nat.pow_succ, ← Nat.mul_assoc, Nat.mul_mod_left] at h
    exact absurd rfl h

/-- Zeros behind the digits do not count in the value. -/
theorem value_stripZeros (fuel : Nat) (d : Decimal) : (d.stripZeros fuel).value = d.value := by
  induction fuel generalizing d with
  | zero => rfl
  | succ fuel ih =>
    rw [Decimal.stripZeros]
    split
    · next h =>
      rw [ih]
      have hregrid := value_regrid (d.digits / 10) 1 d.exponent
      rw [Nat.pow_one, Nat.div_mul_cancel (Nat.dvd_of_mod_eq_zero h.2)] at hregrid
      exact hregrid.symm
    · rfl

end Decimal

namespace Binary64

variable {negative : Bool} {num den digits : Nat} {exponent : Int}

/-! ## Beyond the range -/

/-- A quotient of less than half a unit is rounded to zero. -/
theorem ofRatio_eq_zero (h : 2 * (num * unitsPerOne) < den) :
    ofRatio negative num den = zero negative := by
  have hquotient : num * unitsPerOne / den = 0 := Nat.div_eq_of_lt (by omega)
  have hshift : leadingShift (num * unitsPerOne) den = 0 := by
    rw [leadingShift, hquotient, Nat.log2_zero]
  have hremainder : num * unitsPerOne % den = num * unitsPerOne := Nat.mod_eq_of_lt (by omega)
  have hbits : leadingBits (num * unitsPerOne) den = 0 := by
    rw [leadingBits, hshift, Nat.pow_zero, Nat.mul_one, roundHalfEven, hremainder, if_pos (.inl h),
      hquotient]
  rw [ofRatio_eq, hbits, hshift]
  rfl

/-- A quotient from `2 ^ 1024` on is rounded to the infinity. -/
theorem ofRatio_eq_infinity {n : Nat} (hn : 1024 ≤ n) (hden : 0 < den) (h : 2 ^ n * den ≤ num) :
    ofRatio negative num den = infinity negative := by
  obtain ⟨k, hk⟩ : ∃ k, 1074 = k := ⟨_, rfl⟩
  obtain ⟨l, hl⟩ : ∃ l, 2046 = l := ⟨_, rfl⟩
  have hmagnitude : (infinity negative).magnitude * den ≤ num * unitsPerOne := by
    rw [magnitude_infinity negative hl, unitsPerOne_eq hk, ← Nat.pow_add]
    calc 2 ^ (52 + l) * den ≤ 2 ^ (n + k) * den :=
          Nat.mul_le_mul_right _ (Nat.pow_le_pow_right (by decide) (by omega))
      _ = 2 ^ n * den * 2 ^ k := by rw [Nat.pow_add, Nat.mul_right_comm]
      _ ≤ num * 2 ^ k := Nat.mul_le_mul_right _ h
  refine eq_of_magnitude (negative_ofSignificand _ _ _) (Nat.le_antisymm ?_ ?_)
  · exact magnitude_le_infinity (not_isNaN_ofSignificand _ _ _) negative
  · exact le_magnitude_ofRatio (representable_magnitude _) (Nat.le_refl _) hden hmagnitude

/-- Ten to the tenth is more than two to the power of 33. -/
theorem two_pow_le_ten_pow {m n : Nat} (h : 10 * m ≤ 33 * n) : 2 ^ m ≤ 10 ^ n := by
  refine (Nat.pow_le_pow_iff_left (n := 10) (by decide)).1 ?_
  calc (2 ^ m) ^ 10 = 2 ^ (10 * m) := by rw [← Nat.pow_mul, Nat.mul_comm]
    _ ≤ 2 ^ (33 * n) := Nat.pow_le_pow_right (by decide) h
    _ = (2 ^ 33) ^ n := Nat.pow_mul 2 33 n
    _ ≤ (10 ^ 10) ^ n := Nat.pow_le_pow_left (by decide) n
    _ = (10 ^ n) ^ 10 := by rw [← Nat.pow_mul, ← Nat.pow_mul, Nat.mul_comm]

/-! ## The value of a decimal -/

/-- The number nearest to a decimal is the one nearest to its value as a quotient. -/
theorem ofDecimal_eq_ofRatio (negative : Bool) (digits : Nat) (exponent : Int) :
    ofDecimal negative digits exponent =
      ofRatio negative (digits * 10 ^ exponent.toNat) (10 ^ (-exponent).toNat) := by
  have hdigits : digits < 2 ^ (digits.log2 + 1) := Nat.lt_log2_self
  unfold ofDecimal
  split
  · next h =>
    refine (ofRatio_eq_zero ?_).symm
    rcases h with rfl | hsmall
    · simp
    · obtain ⟨k, hk⟩ : ∃ k, 1074 = k := ⟨_, rfl⟩
      have hexponent : exponent.toNat = 0 := by omega
      rw [hexponent, Nat.pow_zero, Nat.mul_one, unitsPerOne_eq hk]
      calc 2 * (digits * 2 ^ k) < 2 * (2 ^ (digits.log2 + 1) * 2 ^ k) := by
            have hmul := Nat.mul_lt_mul_of_pos_right hdigits (Nat.two_pow_pos k)
            omega
        _ = 2 ^ (digits.log2 + 1 + k + 1) := by rw [← Nat.pow_add, Nat.pow_succ, Nat.mul_comm 2]
        _ ≤ 10 ^ (-exponent).toNat := two_pow_le_ten_pow (by omega)
  · next h =>
    rw [not_or] at h
    split
    · next hlarge =>
      obtain ⟨k, hk⟩ : ∃ k, 1024 = k := ⟨_, rfl⟩
      have hexponent : (-exponent).toNat = 0 := by omega
      rw [hexponent, Nat.pow_zero]
      refine (ofRatio_eq_infinity (Nat.le_of_eq hk) Nat.one_pos ?_).symm
      rw [Nat.mul_one]
      exact Nat.le_trans (two_pow_le_ten_pow (by omega))
        (Nat.le_mul_of_pos_left _ (Nat.pos_of_ne_zero h.1))
    · split
      · next hpos =>
        have hexponent : (-exponent).toNat = 0 := by omega
        rw [hexponent]
        rfl
      · next hneg =>
        have hexponent : exponent.toNat = 0 := by omega
        rw [hexponent, Nat.pow_zero, Nat.mul_one]
        rfl

/-- Decimals of one value are read as one number. -/
theorem ofDecimal_congr (negative : Bool) {d d' : Decimal} (h : d.value = d'.value) :
    ofDecimal negative d.digits d.exponent = ofDecimal negative d'.digits d'.exponent := by
  rw [Decimal.value_eq_div, Decimal.value_eq_div,
    div_eq_div_iff (by positivity) (by positivity)] at h
  rw [ofDecimal_eq_ofRatio, ofDecimal_eq_ofRatio]
  exact ofRatio_congr (Nat.pow_pos (by decide)) (Nat.pow_pos (by decide)) (by exact_mod_cast h)

/-- No digits are zero. -/
theorem ofDecimal_zero (negative : Bool) (exponent : Int) :
    ofDecimal negative 0 exponent = zero negative := by
  rw [ofDecimal, if_pos (.inl rfl)]

/-! ## Numbers as decimals -/

variable {x : Binary64} {d : Decimal}

/-- A decimal without the zeros behind its digits is read as the same number. -/
theorem ReadsBack.stripZeros (h : x.ReadsBack d) (fuel : Nat) : x.ReadsBack (d.stripZeros fuel) :=
  (ofDecimal_congr x.negative (Decimal.value_stripZeros fuel d)).trans h

/-- A decimal that is not zero is none without the zeros behind its digits. -/
theorem digits_stripZeros_ne_zero (h : d.digits ≠ 0) (fuel : Nat) :
    (d.stripZeros fuel).digits ≠ 0 := by
  induction fuel generalizing d with
  | zero => exact h
  | succ fuel ih =>
    rw [Decimal.stripZeros]
    split
    · exact ih (by dsimp only; omega)
    · exact h

/-- The exact decimal value, by a name for its places. -/
theorem exactDecimal_eq (x : Binary64) {k : Nat} (hk : 1074 = k) :
    x.exactDecimal = ⟨x.magnitude * 5 ^ k, -(k : Int)⟩ := by
  have hexponent : (-1074 : Int) = -(k : Int) := by omega
  rw [exactDecimal, hk, hexponent]
  rfl

/-- The exact decimal value of a finite number is read as the number. -/
theorem readsBack_exactDecimal (hfinite : x.IsFinite) : x.ReadsBack x.exactDecimal := by
  obtain ⟨k, hk⟩ : ∃ k, 1074 = k := ⟨_, rfl⟩
  have htoNat : (-(k : Int)).toNat = 0 := by omega
  have hnegated : (- -(k : Int)).toNat = k := by omega
  rw [ReadsBack, ofDecimal_eq_ofRatio, exactDecimal_eq x hk]
  refine ofRatio_eq_self hfinite (Nat.pow_pos (by decide)) ?_
  dsimp only
  rw [htoNat, hnegated, Nat.pow_zero, Nat.mul_one, unitsPerOne_eq hk, Nat.mul_assoc, ← Nat.mul_pow]

/-- A neighbour that is chosen is not zero and is read as the number. -/
theorem readsBack_neighbour? {tie : Decimal.Tie} {exponent : Int}
    (h : x.neighbour? tie exponent = some d) : d.digits ≠ 0 ∧ x.ReadsBack d := by
  unfold neighbour? at h
  have hfound := List.find?_some h
  simpa only [decide_eq_true_eq] using hfound

/-- The decimal in which a finite number other than zero is written is not zero and is read as the
number. -/
theorem readsBack_shortest (tie : Decimal.Tie) (hfinite : x.IsFinite) (hzero : x.magnitude ≠ 0) :
    (x.shortest tie).digits ≠ 0 ∧ x.ReadsBack (x.shortest tie) := by
  unfold shortest
  dsimp only
  generalize (List.range 17).map (fun (n : Nat) => x.decimalScale - (n + 1)) = grids
  have hchosen : ((grids.findSome? (x.neighbour? tie)).getD x.exactDecimal).digits ≠ 0 ∧
      x.ReadsBack ((grids.findSome? (x.neighbour? tie)).getD x.exactDecimal) := by
    cases hfind : grids.findSome? (x.neighbour? tie) with
    | none =>
      obtain ⟨k, hk⟩ : ∃ k, 1074 = k := ⟨_, rfl⟩
      refine ⟨?_, readsBack_exactDecimal hfinite⟩
      rw [Option.getD_none, exactDecimal_eq x hk]
      exact Nat.mul_ne_zero hzero (Nat.ne_of_gt (Nat.pow_pos (by decide)))
    | some d =>
      obtain ⟨exponent, -, hd⟩ := List.exists_of_findSome?_eq_some hfind
      exact readsBack_neighbour? hd
  exact ⟨digits_stripZeros_ne_zero hchosen.1 400, hchosen.2.stripZeros 400⟩

end Binary64

end RowQuery
